import CallNotice.Proofs.Host.Independence
import CallNotice.Proofs.Notification.Reduction
import CallNotice.Replay

namespace CallNotice

open Act Scene Journal

namespace Scene

def warnings (s : Scene) : Nat := s.log.countP fun event => event.level = .warn

theorem warnings_tell (event : LogEvent) (s : Scene) :
    (s.tell event).warnings = s.warnings + if event.level = .warn then 1 else 0 := by
  rw [warnings, tell, List.countP_append, List.countP_singleton]
  simp only [decide_eq_true_eq]
  rfl

theorem warnings_of_works {α : Type} {paths : List String} {Q : α → Prop} {x : Act α}
    (h : Works paths LogEvent.IsDebug Q x) (s : Scene) : (x.run s).2.warnings = s.warnings := by
  apply (h s).1.countP
  intro event hevent
  rw [hevent]
  rfl

end Scene

theorem Notifier.level_composeEvent (p : Notifier) (call : Call) (missed : UInt32) :
    (p.composeEvent call missed).level = .debug := by
  rw [composeEvent]
  split
  · rfl
  · rfl

section Files

variable {path : String} {journal next : NotificationJournal} {s s₁ s₂ s₃ : Scene} {rows : Rows}
  {rs : List NotificationRecord} {e : CallLogEntry} {id : UInt64} {now : Timestamp} {i : Int32}
  {n : Notification}

theorem keeps_recorded (hdistinct : Distinct s.files.here path journal.path)
    (hrows : CallLogJournal.Kept path rows s.files)
    (hrecords : Keeps NotificationRecord.ofJson? journal.path rs s.files)
    (hinsert : (CallLogJournal.insert path e).run s = (.ok id, s₁)) (hfiles : s₂.files = s₁.files)
    (hnotify : (journal.notify now i n).run s₂ = (.ok next, s₃)) :
    s₃.files.here = s.files.here ∧ CallLogJournal.Kept path (rows.insert e) s₃.files ∧
      next.path = journal.path ∧ ∃ rs', Keeps NotificationRecord.ofJson? journal.path rs' s₃.files ∧
        (NotificationJournal.activeOf rs').get? i = some n.reread := by
  obtain ⟨-, hcontent⟩ := CallLogJournal.run_insert_ok hinsert hrows.isOpen
  obtain ⟨-, hkept⟩ := CallLogJournal.kept_insert hinsert hrows
  have hinserted := (CallLogJournal.works_insert (List.mem_singleton_self path) e s).1.files
  rw [hinsert] at hinserted
  have hnotifies : Works [journal.path] LogEvent.IsDebug (fun next => next.path = journal.path)
      (journal.notify now i n) :=
    NotificationJournal.works_notify now i (List.mem_singleton_self journal.path) n
  have hnotified := (hnotifies s₂).1.files
  rw [hnotify] at hnotified
  rw [← hfiles] at hcontent hkept hinserted
  obtain ⟨s₂', hlock, hadmits⟩ := NotificationJournal.run_notify_locked hnotify
  have hhere : s₂.files.here = s.files.here := hinserted.here
  rw [← hhere] at hdistinct
  obtain ⟨hlog, hjournal⟩ := hdistinct.avoid hcontent hlock hadmits
  have hspares := hinserted.spares_others
  have hspares' := hnotified.spares_others
  rw [Files.place, hhere] at hjournal
  obtain ⟨hpath, rs', hkeeps, hshown⟩ :=
    NotificationJournal.keeps_notified hnotify (hrecords.spared hspares hjournal)
  exact ⟨hspares'.here.trans hhere, hkept.spared hspares' hlog, hpath, rs', hkeeps, hshown⟩

end Files

namespace Host

variable {w : Workplace} {start h : Host} {path : String} {journal : NotificationJournal}
  {now : Timestamp} {call : Call} {calls : List Call} {n : Notification}

def warnings (h : Host) : Nat := h.scene.warnings

theorem run_notify_logged (journal : NotificationJournal) (now : Timestamp) (id : Int32)
    (n : Notification) (s : Scene) :
    ((Outlet.dispatcher [.log, .journal journal] false).notify now id n).run s =
      match (journal.notify now id n).run
        (s.tell (.posted id n.title (n.buttons.map Button.title) n.largeIcon.isSome)) with
      | (.ok next, s') => (.ok (.dispatcher [.log, .journal next] false), s')
      | (.error fault, s') =>
        (.ok (.dispatcher [.log, .journal journal] false), s'.tell (.sinkPostFailed "file" id fault)) := by
  let turn (sink : Sink) : Act Sink :=
    Outlet.turn (sink.notify now id n) (.sinkPostFailed sink.name id) sink
  have hlog : (turn .log).run s = (.ok .log,
      s.tell (.posted id n.title (n.buttons.map Button.title) n.largeIcon.isSome)) := rfl
  have hjournal (s : Scene) : (turn (.journal journal)).run s =
      match (journal.notify now id n).run s with
      | (.ok next, s') => (.ok (.journal next), s')
      | (.error fault, s') => (.ok (.journal journal), s'.tell (.sinkPostFailed "file" id fault)) := by
    change (Outlet.turn ((Sink.journal journal).notify now id n) _ _).run s = _
    rw [Outlet.run_turn, Sink.notify, run_bind]
    rcases (journal.notify now id n).run s with ⟨fault | next, s'⟩ <;> rfl
  rw [Outlet.notify]
  rcases hrun : (journal.notify now id n).run
    (s.tell (.posted id n.title (n.buttons.map Button.title) n.largeIcon.isSome)) with
    ⟨fault | next, s'⟩
  all_goals
    have hturn := hjournal
      (s.tell (.posted id n.title (n.buttons.map Button.title) n.largeIcon.isSome))
    rw [hrun] at hturn
    rw [run_bind_of_ok (run_mapM_cons hlog (run_mapM_cons hturn rfl))]
    rfl

theorem postNotice_of_run {next : Outlet} {s : Scene}
    (hrun : (h.outlet.notify now Notifier.noticeId n).run h.scene = (.ok next, s)) :
    h.postNotice now n = { h with outlet := next, scene := s } := by
  rw [postNotice, notify, hrun]

structure IsRecording (w : Workplace) (h : Host) : Prop where
  listeners : h.listeners = Workplace.listeners true
  store : h.store = .journal w.callLog
  outlet : ∃ writes, h.outlet = .dispatcher [.log, .journal ⟨w.notifications, writes⟩] false

namespace IsRecording

theorem record (hrec : IsRecording w h) (call : Call) :
    ∃ result s, (CallLogJournal.insert w.callLog (rowFor call)).run h.scene = (result, s) ∧
      IsRecording w (h.record call) ∧ (h.record call).notifier = h.notifier ∧
      (h.record call).scene.files = s.files ∧
      (h.record call).warnings = h.warnings + if result.isOk then 0 else 1 := by
  obtain ⟨scene, store, outlet, notifier, listeners, told⟩ := h
  obtain ⟨hlisteners, rfl, houtlet⟩ := hrec
  have hworks := warnings_of_works
    (CallLogJournal.works_insert (List.mem_singleton_self w.callLog) (rowFor call)) scene
  rcases hrun : (CallLogJournal.insert w.callLog (rowFor call)).run scene with ⟨fault | id, s⟩
  · have hrecord : Host.record call ⟨scene, .journal w.callLog, outlet, notifier, listeners, told⟩ =
        ⟨s.tell (.recordFailed fault), .journal w.callLog, outlet, notifier, listeners, told⟩ := by
      rw [Host.record, Host.insert, CallLogStore.insert, run_bind, hrun]
      rfl
    rw [hrun] at hworks
    rw [hrecord]
    refine ⟨_, s, rfl, ⟨hlisteners, rfl, houtlet⟩, rfl, rfl, ?_⟩
    exact (warnings_tell _ s).trans (congrArg (· + 1) hworks)
  · have hrecord : Host.record call ⟨scene, .journal w.callLog, outlet, notifier, listeners, told⟩ =
        ⟨s.tell (.callRecorded id), .journal w.callLog, outlet, notifier, listeners, told⟩ := by
      rw [Host.record, Host.insert, CallLogStore.insert, run_bind, hrun]
      rfl
    rw [hrun] at hworks
    rw [hrecord]
    exact ⟨_, s, rfl, ⟨hlisteners, rfl, houtlet⟩, rfl, rfl, (warnings_tell _ s).trans hworks⟩

theorem showMissed (hrec : IsRecording w h) (now : Timestamp) (call : Call) :
    ∃ writes s result s', s.files = h.scene.files ∧
      (NotificationJournal.notify now Notifier.noticeId (h.notifier.notice call (h.count + 1))
        ⟨w.notifications, writes⟩).run s = (result, s') ∧
      IsRecording w (h.showMissed now call) ∧
      (h.showMissed now call).notifier = { h.notifier with count := h.count + 1 } ∧
      (h.showMissed now call).scene.files = s'.files ∧
      (h.showMissed now call).warnings = h.warnings + if result.isOk then 0 else 1 := by
  obtain ⟨scene, store, outlet, notifier, listeners, told⟩ := h
  obtain ⟨hlisteners, hstore, writes, rfl⟩ := hrec
  let n := notifier.notice call (notifier.count + 1)
  let counted : Host := ⟨(scene.tell (notifier.composeEvent call (notifier.count + 1))).tell
      (.notificationAdded call.describe (notifier.count + 1)), store,
    .dispatcher [.log, .journal ⟨w.notifications, writes⟩] false,
    { notifier with count := notifier.count + 1 }, listeners, told⟩
  let s := counted.scene.tell
    (.posted Notifier.noticeId n.title (n.buttons.map Button.title) n.largeIcon.isSome)
  have hnotifies : Works [w.notifications] LogEvent.IsDebug
      (fun next => next.path = w.notifications)
      (NotificationJournal.notify now Notifier.noticeId n ⟨w.notifications, writes⟩) :=
    NotificationJournal.works_notify now _ (List.mem_singleton_self w.notifications) n
  have hcalm : s.warnings = scene.warnings := by
    rw [warnings_tell, warnings_tell, warnings_tell, Notifier.level_composeEvent]
    rfl
  have hworks := (warnings_of_works hnotifies s).trans hcalm
  have hpath := (hnotifies s).2
  have hlogged : (counted.outlet.notify now Notifier.noticeId n).run counted.scene = _ :=
    run_notify_logged ⟨w.notifications, writes⟩ now Notifier.noticeId n counted.scene
  have hshown : Host.showMissed now call ⟨scene, store,
      .dispatcher [.log, .journal ⟨w.notifications, writes⟩] false, notifier, listeners, told⟩ =
      counted.postNotice now n := showMissed_eq call _
  rcases hrun : (NotificationJournal.notify now Notifier.noticeId n ⟨w.notifications, writes⟩).run s
    with ⟨fault | ⟨path, writes'⟩, s'⟩
  · rw [hrun] at hworks hlogged
    refine ⟨writes, s, _, s', rfl, hrun, ?_⟩
    rw [hshown, postNotice_of_run hlogged]
    refine ⟨⟨hlisteners, hstore, writes, rfl⟩, rfl, rfl, ?_⟩
    exact (warnings_tell _ s').trans (congrArg (· + 1) hworks)
  · rw [hrun] at hworks hlogged hpath
    obtain rfl : path = w.notifications := hpath _ rfl
    refine ⟨writes, s, _, s', rfl, hrun, ?_⟩
    rw [hshown, postNotice_of_run hlogged]
    exact ⟨⟨hlisteners, hstore, writes', rfl⟩, rfl, rfl, hworks⟩

theorem changeState_of_not_missed (hrec : IsRecording w h) (now : Timestamp) {e : CallEvent}
    (hmissed : e.isMissed = false) : h.changeState now e =
      h.tell (.stateChanged e.call.describe e.before e.after h.listeners.length) := by
  rw [Host.changeState, hrec.listeners]
  simp only [Workplace.listeners, if_true, List.foldl_cons, List.foldl_nil, hear, hmissed,
    Bool.false_eq_true, if_false]

theorem changeState_of_missed (hrec : IsRecording w h) (now : Timestamp) {e : CallEvent}
    (hmissed : e.isMissed = true) : h.changeState now e =
      ((h.tell (.stateChanged e.call.describe e.before e.after h.listeners.length)).record
        e.call).showMissed now e.call := by
  rw [Host.changeState, hrec.listeners]
  simp only [Workplace.listeners, if_true, List.foldl_cons, List.foldl_nil, hear, hmissed]

theorem tell (hrec : IsRecording w h) (event : LogEvent) : IsRecording w (h.tell event) :=
  ⟨hrec.listeners, hrec.store, hrec.outlet⟩

end IsRecording

structure Recorded (w : Workplace) (start : Host) (calls : List Call) (h : Host) : Prop extends
    IsRecording w h where
  notifier : h.notifier = { start.notifier with count := .ofNat calls.length }
  distinct : Distinct h.scene.files.here w.callLog w.notifications
  unchanged : calls = [] → h.scene.files = start.scene.files
  rows : CallLogJournal.Kept w.callLog
    ((calls.map rowFor).foldl (fun rows e => rows.insert e) start.rows) h.scene.files
  notice : ∃ rs, Keeps NotificationRecord.ofJson? w.notifications rs h.scene.files ∧
    (NotificationJournal.activeOf rs).get? Notifier.noticeId =
      match calls.getLast? with
      | some call => some (start.notifier.notice call (.ofNat calls.length)).reread
      | none => (w.active start.scene.files).get? Notifier.noticeId

theorem Recorded.tell (hrecorded : Recorded w start calls h) (event : LogEvent) :
    Recorded w start calls (h.tell event) :=
  ⟨hrecorded.toIsRecording.tell event, hrecorded.notifier, hrecorded.distinct, hrecorded.unchanged,
    hrecorded.rows, hrecorded.notice⟩

def missed (events : List (Timestamp × CallEvent)) : List Call :=
  (events.filter fun e => e.2.isMissed).map fun e => e.2.call

theorem IsRecording.missedCall (hrec : IsRecording w h) (now : Timestamp) (call : Call) :
    IsRecording w ((h.record call).showMissed now call) ∧
      h.warnings ≤ ((h.record call).showMissed now call).warnings ∧
      ∀ {start : Host} {calls : List Call}, Recorded w start calls h →
        ((h.record call).showMissed now call).warnings = h.warnings →
          Recorded w start (calls ++ [call]) ((h.record call).showMissed now call) := by
  obtain ⟨result, s₁, hinsert, hrec₁, hnotifier₁, hfiles₁, hwarned₁⟩ := hrec.record call
  obtain ⟨writes, s₂, result', s₃, hfiles₂, hnotify, hrec₂, hnotifier₂, hfiles₃, hwarned₂⟩ :=
    hrec₁.showMissed now call
  refine ⟨hrec₂, by omega, fun {start calls} hrecorded hquiet => ?_⟩
  rw [hwarned₂, hwarned₁] at hquiet
  cases result with
  | error fault =>
    have hmore : h.warnings + 1 + _ = h.warnings := hquiet
    omega
  | ok id =>
    cases result' with
    | error fault =>
      have hmore : h.warnings + 0 + 1 = h.warnings := hquiet
      omega
    | ok next =>
      obtain ⟨rs, hkeeps, -⟩ := hrecorded.notice
      obtain ⟨hhere, hrows, hpath, rs', hkeeps', hshown⟩ := keeps_recorded hrecorded.distinct
        hrecorded.rows hkeeps hinsert (hfiles₂.trans hfiles₁) hnotify
      have hcount : UInt32.ofNat calls.length + 1 = .ofNat (calls ++ [call]).length := by
        rw [List.length_append, UInt32.ofNat_add]
        rfl
      rw [hrecorded.notifier] at hnotifier₁
      rw [count, hnotifier₁] at hnotifier₂ hshown
      rw [← hfiles₃] at hhere hrows hkeeps'
      refine ⟨hrec₂, ?_, ?_, ?_, ?_, rs', hkeeps', ?_⟩
      · rw [hnotifier₂, ← hcount]
      · rw [hhere]
        exact hrecorded.distinct
      · exact fun hnil => absurd hnil (List.append_ne_nil_of_right_ne_nil _ (List.cons_ne_nil _ _))
      · rw [List.map_append, List.foldl_append]
        exact hrows
      · rw [hshown, List.getLast?_concat, ← hcount]
        rfl

theorem IsRecording.changeState (hrec : IsRecording w h) (now : Timestamp) (e : CallEvent) :
    IsRecording w (h.changeState now e) ∧ h.warnings ≤ (h.changeState now e).warnings ∧
      ∀ {start : Host} {calls : List Call}, Recorded w start calls h →
        (h.changeState now e).warnings = h.warnings →
          Recorded w start (calls ++ missed [(now, e)]) (h.changeState now e) := by
  let told := h.tell (.stateChanged e.call.describe e.before e.after h.listeners.length)
  have hcalm : told.warnings = h.warnings := warnings_tell _ h.scene
  cases hmissed : e.isMissed with
  | false =>
    have hnone : missed [(now, e)] = [] := by
      simp only [missed, List.filter_cons, hmissed, Bool.false_eq_true, if_false, List.filter_nil,
        List.map_nil]
    rw [hrec.changeState_of_not_missed now hmissed, hnone]
    refine ⟨hrec.tell _, hcalm.ge, fun hrecorded _ => ?_⟩
    rw [List.append_nil]
    exact hrecorded.tell _
  | true =>
    have hone : missed [(now, e)] = [e.call] := by
      simp only [missed, List.filter_cons, hmissed, if_true, List.filter_nil, List.map_cons,
        List.map_nil]
    obtain ⟨hrec', hwarned, hrecorded⟩ := (hrec.tell (.stateChanged e.call.describe e.before
      e.after h.listeners.length)).missedCall now e.call
    rw [hrec.changeState_of_missed now hmissed, hone]
    refine ⟨hrec', hcalm ▸ hwarned, fun hbefore hquiet => hrecorded (hbefore.tell _) ?_⟩
    exact hquiet.trans hcalm.symm

theorem missed_cons (first : Timestamp × CallEvent) (events : List (Timestamp × CallEvent)) :
    missed (first :: events) = missed [first] ++ missed events := by
  rw [missed, missed, missed, ← List.map_append, ← List.filter_append, List.singleton_append]

theorem IsRecording.run (hrec : IsRecording w h) (events : List (Timestamp × CallEvent)) :
    h.warnings ≤ (h.run (events.map fun (now, e) => (now, .event e))).warnings ∧
      ∀ {start : Host} {calls : List Call}, Recorded w start calls h →
        (h.run (events.map fun (now, e) => (now, .event e))).warnings = h.warnings →
          Recorded w start (calls ++ missed events)
            (h.run (events.map fun (now, e) => (now, .event e))) := by
  induction events generalizing h with
  | nil =>
    refine ⟨Nat.le_refl _, fun hrecorded _ => ?_⟩
    rw [missed, List.filter_nil, List.map_nil, List.append_nil]
    exact hrecorded
  | cons first events ih =>
    obtain ⟨hrec', hwarned, hstep⟩ := hrec.changeState first.1 first.2
    obtain ⟨hwarned', hrest⟩ := ih hrec'
    refine ⟨Nat.le_trans hwarned hwarned', fun hrecorded hquiet => ?_⟩
    rw [missed_cons, ← List.append_assoc]
    have hquiet' : (h.changeState first.1 first.2).warnings = h.warnings :=
      Nat.le_antisymm (Nat.le_trans hwarned' hquiet.le) hwarned
    exact hrest (hstep hrecorded hquiet') (hquiet.trans hquiet'.symm)

end Host

namespace Journal

end Journal

namespace Workplace

open Host

/-- The directories of both files are there, and both can be written. -/
structure IsReady (w : Workplace) (files : Files) : Prop where
  lockable : ∀ path ∈ [w.callLog, w.notifications], Lockable path files
  admits : ∀ path ∈ [w.callLog, w.notifications], files.admits path = true

variable {w : Workplace} {h : Host}

theorem IsReady.sameTree {files files' : Files} (hready : w.IsReady files)
    (htree : Files.SameTree files files') : w.IsReady files' :=
  ⟨fun path hpath => (hready.lockable path hpath).sameTree htree,
    fun path hpath => (htree.admits path).trans (hready.admits path hpath)⟩

theorem IsReady.missedCall (hready : w.IsReady h.scene.files) (hrec : IsRecording w h)
    (now : Timestamp) (call : Call) :
    ((h.record call).showMissed now call).warnings = h.warnings ∧
      w.IsReady ((h.record call).showMissed now call).scene.files := by
  obtain ⟨result, s₁, hinsert, hrec₁, -, hfiles₁, hwarned₁⟩ := hrec.record call
  obtain ⟨writes, s₂, result', s₃, hfiles₂, hnotify, -, -, hfiles₃, hwarned₂⟩ :=
    hrec₁.showMissed now call
  obtain ⟨locked, hlock, htouched⟩ := run_lock (hready.lockable _ List.mem_cons_self)
  obtain ⟨id, files, hinsert', htree⟩ := CallLogJournal.run_insert hlock
    ((htouched.tree.admits _).trans (hready.admits _ List.mem_cons_self)) (rowFor call)
  cases hinsert.symm.trans hinsert'
  have hready₂ : w.IsReady s₂.files := by
    rw [hfiles₂, hfiles₁]
    exact hready.sameTree (htouched.tree.trans htree)
  have hmem : w.notifications ∈ [w.callLog, w.notifications] :=
    List.mem_cons_of_mem _ List.mem_cons_self
  have hlockable : Lockable (NotificationJournal.mk w.notifications writes).path s₂.files :=
    hready₂.lockable _ hmem
  obtain ⟨next, s', hnotify', htree'⟩ := NotificationJournal.run_record
    (.postRecorded Notifier.noticeId w.notifications) hlockable (hready₂.admits _ hmem)
    ⟨now, .notify, Notifier.noticeId,
      some ((h.record call).notifier.notice call ((h.record call).count + 1))⟩
  cases hnotify.symm.trans hnotify'
  refine ⟨hwarned₂.trans hwarned₁, ?_⟩
  rw [hfiles₃]
  exact hready₂.sameTree htree'

theorem IsReady.run (hready : w.IsReady h.scene.files) (hrec : IsRecording w h)
    (events : List (Timestamp × CallEvent)) :
    (h.run (events.map fun (now, e) => (now, .event e))).warnings = h.warnings := by
  induction events generalizing h with
  | nil => rfl
  | cons first events ih =>
    obtain ⟨now, e⟩ := first
    obtain ⟨hrec', -, -⟩ := hrec.changeState now e
    have hstep : (h.changeState now e).warnings = h.warnings ∧
        w.IsReady (h.changeState now e).scene.files := by
      let told := h.tell (.stateChanged e.call.describe e.before e.after h.listeners.length)
      have hcalm : told.warnings = h.warnings := warnings_tell _ h.scene
      cases hmissed : e.isMissed with
      | false =>
        rw [hrec.changeState_of_not_missed now hmissed]
        exact ⟨hcalm, hready⟩
      | true =>
        have hready' : w.IsReady told.scene.files := hready
        obtain ⟨hwarned, hready''⟩ := hready'.missedCall (hrec.tell _) now e.call
        rw [hrec.changeState_of_missed now hmissed]
        exact ⟨hwarned.trans hcalm, hready''⟩
    exact (ih hstep.2 hrec').trans hstep.1

variable {settings : Settings} {s : Scene}

def replayed (w : Workplace) (settings : Settings) (s : Scene)
    (events : List (Timestamp × CallEvent)) : Host :=
  (w.host settings false s).afterEvents (listeners true) events

end Workplace

end CallNotice
