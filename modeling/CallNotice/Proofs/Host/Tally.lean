import CallNotice.Proofs.Host.Collision

namespace CallNotice

namespace HostStep

/-- What the bus, the notification and the user bring about. -/
def IsDelivered : HostStep → Prop
  | .event _ | .added _ | .removed _ | .clear | .receive _ | .receiveAction _ _ => True
  | _ => False

end HostStep

namespace Host

open Act Scene

structure ChangesLog (f : Rows → Rows) (h h' : Host) : Prop where
  notices : SameNotices h h'
  refusals : h'.refusals = h.refusals
  here : h'.scene.files.here = h.scene.files.here
  keeps (rows : Rows) : h.store.Keeps rows h.scene.files →
    h'.store.path? = h.store.path? ∧ h'.store.Keeps (f rows) h'.scene.files

theorem insert_ok {h h' : Host} {e : CallLogEntry} {id : UInt64} (hrun : h.insert e = (.ok id, h')) :
    ChangesLog (Rows.insert e) h h' := by
  have hscene := (h.store.works_insert e h.scene).1
  have hnotices := SameNotices.insert e h
  rw [hrun] at hnotices
  rw [insert_eq_commit] at hrun
  obtain ⟨next, s', hstore, rfl⟩ := commit_ok hrun
  rw [hstore] at hscene
  exact ⟨hnotices, hscene.refusals_of_isDebug, hscene.files.here, fun rows hkeeps => hkeeps.insert hstore⟩

theorem insert_error {h h' : Host} {e : CallLogEntry} {fault : Fault}
    (hrun : h.insert e = (.error fault, h')) :
    h'.refusals = h.refusals ∧ ∀ rows, h.store ≠ .memory rows := by
  have hscene := (h.store.works_insert e h.scene).1
  rw [insert_eq_commit] at hrun
  obtain ⟨s', hstore, rfl⟩ := commit_error hrun
  rw [hstore] at hscene
  refine ⟨hscene.refusals_of_isDebug, fun rows hrows => ?_⟩
  rw [hrows] at hstore
  cases hstore

theorem update_ok {h h' : Host} {filter : CallLogFilter} {values : CallLogUpdate} {updated : Nat}
    (hrun : h.update filter values = (.ok updated, h')) :
    ChangesLog (Rows.update filter values) h h' := by
  have hscene := (h.store.works_update filter values h.scene).1
  have hnotices := SameNotices.update filter values h
  rw [hrun] at hnotices
  rw [update_eq_commit] at hrun
  obtain ⟨next, s', hstore, rfl⟩ := commit_ok hrun
  rw [hstore] at hscene
  exact ⟨hnotices, hscene.refusals_of_isDebug, hscene.files.here, fun rows hkeeps => hkeeps.update hstore⟩

theorem update_error {h h' : Host} {filter : CallLogFilter} {values : CallLogUpdate} {fault : Fault}
    (hrun : h.update filter values = (.error fault, h')) :
    h'.refusals = h.refusals ∧ ∀ rows, h.store ≠ .memory rows := by
  have hscene := (h.store.works_update filter values h.scene).1
  rw [update_eq_commit] at hrun
  obtain ⟨s', hstore, rfl⟩ := commit_error hrun
  rw [hstore] at hscene
  refine ⟨hscene.refusals_of_isDebug, fun rows hrows => ?_⟩
  rw [hrows] at hstore
  cases hstore

structure Tallies (listeners : List Listener) (recorded counted : Nat) (h : Host) : Prop where
  listeners : h.listeners = listeners
  count : h.count = .ofNat counted
  rows : ∃ rows, h.store.Keeps rows h.scene.files ∧ rows.count .newMissed = recorded
  apart : ∀ path ∈ h.store.path?,
    h.outlet.Avoids h.scene.files.here (h.scene.files.place path)

/-- What the tallies become unless the call log refuses something; a log in memory never does. -/
structure Advances (listeners : List Listener) (a b a' b' : Nat) (h h' : Host) : Prop where
  refusals : h.refusals ≤ h'.refusals
  memory : ∀ rows, h.store = .memory rows →
    h'.refusals = h.refusals ∧ ∃ rows', h'.store = .memory rows'
  tallies : h'.refusals = h.refusals → Tallies listeners a b h → Tallies listeners a' b' h'

variable {listeners : List Listener} {a b a' b' a'' b'' : Nat} {h h' h'' : Host}

theorem Tallies.of_spares (htallies : Tallies listeners a b h) (hspares : SparesLog h h') :
    Tallies listeners a b h' := by
  obtain ⟨rows, hkeeps, hrows⟩ := htallies.rows
  refine ⟨hspares.listeners.trans htallies.listeners, hspares.count.trans htallies.count, ?_, ?_⟩
  · rw [hspares.store]
    exact ⟨rows, hkeeps.spared hspares.files htallies.apart, hrows⟩
  · rw [hspares.store, hspares.files.here]
    intro path hpath
    rw [hspares.files.place]
    exact hspares.avoids (htallies.apart path hpath)

namespace Advances

theorem trans (hfirst : Advances listeners a b a' b' h h')
    (hnext : Advances listeners a' b' a'' b'' h' h'') : Advances listeners a b a'' b'' h h'' := by
  refine ⟨Nat.le_trans hfirst.refusals hnext.refusals, ?_, ?_⟩
  · intro rows hrows
    obtain ⟨hsame, rows', hrows'⟩ := hfirst.memory rows hrows
    obtain ⟨hsame', hmemory⟩ := hnext.memory rows' hrows'
    exact ⟨hsame'.trans hsame, hmemory⟩
  · intro hsame htallies
    have hle := hfirst.refusals
    have hle' := hnext.refusals
    exact hnext.tallies (by omega) (hfirst.tallies (by omega) htallies)

theorem of_spares (hspares : SparesLog h h') : Advances listeners a b a b h h' := by
  refine ⟨Nat.le_of_eq hspares.refusals.symm, ?_, fun _ htallies => htallies.of_spares hspares⟩
  intro rows hrows
  exact ⟨hspares.refusals, rows, hspares.store.trans hrows⟩

theorem setCount {count : UInt32} {n : Nat} (hcount : h.count = .ofNat b → count = .ofNat n) :
    Advances listeners a b a n h (h.setCount count) := by
  refine ⟨Nat.le_refl _, fun rows hrows => ⟨rfl, rows, hrows⟩, fun _ htallies => ?_⟩
  exact ⟨htallies.listeners, hcount htallies.count, htallies.rows, htallies.apart⟩

theorem of_changes {f : Rows → Rows} (hchanges : ChangesLog f h h')
    (hf : ∀ rows, rows.count .newMissed = a → (f rows).count .newMissed = a') :
    Advances listeners a b a' b h h' := by
  refine ⟨Nat.le_of_eq hchanges.refusals.symm, ?_, fun _ htallies => ?_⟩
  · intro rows hrows
    have hkeeps : h.store.Keeps rows h.scene.files := by
      rw [hrows]
      rfl
    obtain ⟨hpath, hkeeps'⟩ := hchanges.keeps rows hkeeps
    refine ⟨hchanges.refusals, ?_⟩
    rw [hrows] at hpath
    cases hstore : h'.store with
    | memory rows' => exact ⟨rows', rfl⟩
    | journal path =>
      rw [hstore] at hpath
      cases hpath
    | unavailable =>
      rw [hstore] at hkeeps'
      exact hkeeps'.elim
  · obtain ⟨rows, hkeeps, hrows⟩ := htallies.rows
    obtain ⟨hpath, hkeeps'⟩ := hchanges.keeps rows hkeeps
    refine ⟨hchanges.notices.listeners.trans htallies.listeners, ?_,
      ⟨f rows, hkeeps', hf rows hrows⟩, ?_⟩
    · rw [count, hchanges.notices.notifier]
      exact htallies.count
    · rw [hpath, hchanges.notices.outlet]
      intro path hjournal
      rw [Files.place, hchanges.here]
      exact htallies.apart path hjournal

theorem of_refused (hrefused : h.refusals < h'.refusals) (hfiles : ∀ rows, h.store ≠ .memory rows) :
    Advances listeners a b a' b' h h' :=
  ⟨Nat.le_of_lt hrefused, fun rows hrows => absurd hrows (hfiles rows),
    fun hsame => absurd hsame (Nat.ne_of_gt hrefused)⟩

theorem record (listeners : List Listener) (a b : Nat) (call : Call) (h : Host) :
    Advances listeners a b (a + 1) b h (h.record call) := by
  unfold Host.record
  split
  · rename_i id h₁ hrun
    have hrow : CallLogFilter.newMissed.accepts (rowFor call) = true := rfl
    refine (of_changes (insert_ok hrun) fun rows hrows => ?_).trans (of_spares (.tell rfl h₁))
    rw [Rows.count_insert, hrows, if_pos hrow]
  · rename_i fault h₁ hrun
    obtain ⟨hsame, hfiles⟩ := insert_error hrun
    apply of_refused _ hfiles
    rw [refusals_tell, hsame]
    exact Nat.lt_succ_self _

theorem markRead (listeners : List Listener) (a b : Nat) (h : Host) :
    Advances listeners a b 0 b h h.markRead := by
  unfold Host.markRead
  split
  · rename_i updated h₁ hrun
    refine (of_changes (update_ok hrun) fun rows _ => ?_).trans (of_spares (.tell rfl h₁))
    exact rows.count_update_markRead
  · rename_i fault h₁ hrun
    obtain ⟨hsame, hfiles⟩ := update_error hrun
    apply of_refused _ hfiles
    rw [refusals_tell, hsame]
    exact Nat.lt_succ_self _

theorem showMissed (listeners : List Listener) (a b : Nat) (now : Timestamp) (call : Call)
    (h : Host) : Advances listeners a b a (b + 1) h (h.showMissed now call) := by
  have hcount : h.count = .ofNat b → h.count + 1 = .ofNat (b + 1) := by
    intro hb
    rw [hb, UInt32.ofNat_add]
    rfl
  have htold := h.notifier.refusesRow_composeEvent call (h.count + 1)
  rw [showMissed_eq]
  exact (((setCount hcount).trans (of_spares (.tell htold _))).trans (of_spares (.tell rfl _))).trans
    (of_spares (.postNotice now _ _))

theorem clear (listeners : List Listener) (a b : Nat) (now : Timestamp) (h : Host) :
    Advances listeners a b 0 0 h (h.clear now) :=
  (((markRead listeners a b h).trans (setCount fun _ => rfl)).trans
    (of_spares (.withdrawNotice now _))).trans (of_spares (.tell rfl _))

theorem heard (listeners : List Listener) (a b : Nat) (now : Timestamp) (e : CallEvent)
    (heard : List Listener) (h : Host) :
    Advances listeners a b (a + if e.isMissed then heard.count .recorder else 0)
      (b + if e.isMissed then heard.count .notifier else 0) h (heard.foldl (hear now e) h) := by
  induction heard generalizing a b h with
  | nil =>
    rw [List.count_nil, List.count_nil, ite_self]
    exact of_spares (.same h)
  | cons listener heard ih =>
    rw [List.foldl_cons]
    cases listener with
    | notifier =>
      have hne : Listener.notifier ≠ .recorder := by decide
      rw [List.count_cons_self, List.count_cons_of_ne hne, hear]
      by_cases hmissed : e.isMissed = true
      · have hnext := (showMissed listeners a b now e.call h).trans (ih a (b + 1) _)
        simp only [hmissed, if_true] at hnext ⊢
        rwa [Nat.add_assoc, Nat.add_comm 1] at hnext
      · have hnext := ih a b h
        simp only [hmissed, Bool.false_eq_true, if_false] at hnext ⊢
        exact hnext
    | recorder =>
      have hne : Listener.recorder ≠ .notifier := by decide
      rw [List.count_cons_self, List.count_cons_of_ne hne, hear]
      by_cases hmissed : e.isMissed = true
      · have hnext := (record listeners a b e.call h).trans (ih (a + 1) b _)
        simp only [hmissed, if_true] at hnext ⊢
        rwa [Nat.add_assoc, Nat.add_comm 1] at hnext
      · have hnext := ih a b h
        simp only [hmissed, Bool.false_eq_true, if_false] at hnext ⊢
        exact hnext
    | probe name =>
      have hrecorder : Listener.probe name ≠ .recorder := by rintro ⟨⟩
      have hnotifier : Listener.probe name ≠ .notifier := by rintro ⟨⟩
      rw [List.count_cons_of_ne hrecorder, List.count_cons_of_ne hnotifier]
      exact (of_spares (.note _ h)).trans (ih a b _)

theorem changeState (hrecorder : listeners.count .recorder = 1)
    (hnotifier : listeners.count .notifier = 1) (a b : Nat) (now : Timestamp) (e : CallEvent)
    (h : Host) :
    Advances listeners a b (a + if e.isMissed then 1 else 0) (b + if e.isMissed then 1 else 0) h
      (h.changeState now e) := by
  have htold : Advances listeners a b a b h
      (h.tell (.stateChanged e.call.describe e.before e.after h.listeners.length)) :=
    of_spares (.tell rfl h)
  have hheard := htold.trans (heard listeners a b now e h.listeners _)
  refine ⟨hheard.refusals, hheard.memory, fun hsame htallies => ?_⟩
  have hend := hheard.tallies hsame htallies
  have hrecorder' : h.listeners.count .recorder = 1 := by rw [htallies.listeners, hrecorder]
  have hnotifier' : h.listeners.count .notifier = 1 := by rw [htallies.listeners, hnotifier]
  rw [hrecorder', hnotifier'] at hend
  exact hend

theorem receive (listeners : List Listener) (a b : Nat) (now : Timestamp) (i : Intent) (h : Host) :
    Advances listeners a b (if HostStep.clearsBy i then 0 else a)
      (if HostStep.clearsBy i then 0 else b) h (h.receive now i).2 := by
  have htold : Advances listeners a b a b h (h.tell (.actionReceived i.action)) :=
    of_spares (.tell rfl h)
  rw [receive_eq]
  by_cases hclears : HostStep.clearsBy i = true
  · simp only [hclears, if_true]
    exact htold.trans (clear listeners a b now _)
  · simp only [hclears, Bool.false_eq_true, if_false]
    exact htold

theorem receiveAction (listeners : List Listener) (a b : Nat) (now : Timestamp) (name : String)
    (data : Option String) (h : Host) :
    Advances listeners a b (if (HostStep.receiveAction name data).clears then 0 else a)
      (if (HostStep.receiveAction name data).clears then 0 else b) h
      (h.receiveAction now name data).2 := by
  rw [Host.receiveAction, IntentAction.ofText, HostStep.clears]
  cases IntentAction.ofName? (Text.trim name) with
  | none => exact of_spares (.same h)
  | some action => exact receive listeners a b now _ h

theorem step (hrecorder : listeners.count .recorder = 1) (hnotifier : listeners.count .notifier = 1)
    (now : Timestamp) {step : HostStep} (hdelivered : step.IsDelivered) (calls : List Call)
    (h : Host) :
    Advances listeners calls.length calls.length (HostStep.missedAfter calls step).length
      (HostStep.missedAfter calls step).length h (h.step now step).2 := by
  cases step with
  | event e =>
    have hmissed : (HostStep.missedAfter calls (.event e)).length =
        calls.length + if e.isMissed then 1 else 0 := by
      rw [HostStep.missedAfter_of_stays rfl, List.length_append, HostStep.missed?_event]
      cases e.isMissed <;> rfl
    rw [hmissed]
    exact changeState hrecorder hnotifier _ _ now e h
  | added call =>
    rw [HostStep.missedAfter_of_quiet rfl rfl]
    exact of_spares (.tellProbes "added" call h)
  | removed call =>
    rw [HostStep.missedAfter_of_quiet rfl rfl]
    exact of_spares (.tellProbes "removed" call h)
  | clear =>
    rw [HostStep.missedAfter_of_clears rfl]
    exact clear listeners _ _ now h
  | receive i =>
    rw [HostStep.missedAfter_of_unmissed rfl, HostStep.clears, apply_ite List.length]
    exact receive listeners _ _ now i h
  | receiveAction name data =>
    rw [HostStep.missedAfter_of_unmissed rfl, apply_ite List.length]
    rw [Host.step, snd_reply]
    exact receiveAction listeners _ _ now name data h
  | _ => exact hdelivered.elim

theorem run (hrecorder : listeners.count .recorder = 1) (hnotifier : listeners.count .notifier = 1)
    {steps : List (Timestamp × HostStep)} (hdelivered : ∀ step ∈ steps, step.2.IsDelivered)
    (calls : List Call) (h : Host) :
    Advances listeners calls.length calls.length
      ((steps.map Prod.snd).foldl HostStep.missedAfter calls).length
      ((steps.map Prod.snd).foldl HostStep.missedAfter calls).length h (h.run steps) := by
  induction steps generalizing calls h with
  | nil => exact of_spares (.same h)
  | cons first steps ih =>
    obtain ⟨now, step⟩ := first
    have hfirst := Advances.step hrecorder hnotifier now (hdelivered _ List.mem_cons_self) calls h
    apply hfirst.trans
    exact ih (fun step hstep => hdelivered step (List.mem_cons_of_mem _ hstep)) _ _

end Advances

theorem tallies_start (hnew : h.count = 0) (hstore : h.store ≠ .unavailable)
    (hnone : h.rows.count .newMissed = 0)
    (hjournal : ∀ path, h.store = .journal path →
      h.scene.files.node? (h.scene.files.place path) = none ∧
        h.outlet.Avoids h.scene.files.here (h.scene.files.place path)) :
    Tallies h.listeners 0 0 h := by
  refine ⟨rfl, hnew, ⟨h.rows, ?_, hnone⟩, ?_⟩
  · rw [rows]
    cases hs : h.store with
    | memory rows => rfl
    | journal path =>
      obtain ⟨habsent, -⟩ := hjournal path hs
      have hkeeps : CallLogJournal.Kept path [] h.scene.files := Journal.keeps_of_absent habsent
      have hempty : (CallLogStore.journal path).rows h.scene.files = [] := hkeeps.values
      rw [hempty]
      exact hkeeps
    | unavailable => exact absurd hs hstore
  · intro path hpath
    cases hs : h.store with
    | journal path' =>
      rw [hs] at hpath
      cases hpath
      exact (hjournal path hs).2
    | _ =>
      rw [hs] at hpath
      cases hpath

/-- Where one recorder and one notifier hear of each call, the new missed rows of the call log are as
many as the missed calls that are counted. A call log in a journal must not refuse anything, and the
outlet must not work on its file. -/
theorem newMissed_rows_eq_count (hnew : h.count = 0) (hrecorder : h.listeners.count .recorder = 1)
    (hnotifier : h.listeners.count .notifier = 1) (hstore : h.store ≠ .unavailable)
    (hnone : h.rows.count .newMissed = 0) {steps : List (Timestamp × HostStep)}
    (hdelivered : ∀ step ∈ steps, step.2.IsDelivered)
    (hfew : (HostStep.missedSince (steps.map Prod.snd)).length < UInt32.size)
    (hjournal : ∀ path, h.store = .journal path →
      h.scene.files.node? (h.scene.files.place path) = none ∧
        h.outlet.Avoids h.scene.files.here (h.scene.files.place path) ∧
        (h.run steps).refusals = h.refusals) :
    (h.run steps).rows.count .newMissed = (h.run steps).count.toNat := by
  have hadvances := Advances.run hrecorder hnotifier hdelivered [] h
  have hsame : (h.run steps).refusals = h.refusals := by
    cases hs : h.store with
    | memory rows => exact (hadvances.memory rows hs).1
    | journal path => exact (hjournal path hs).2.2
    | unavailable => exact absurd hs hstore
  have hstart := tallies_start hnew hstore hnone fun path hpath =>
    ⟨(hjournal path hpath).1, (hjournal path hpath).2.1⟩
  have hend := hadvances.tallies hsame hstart
  obtain ⟨rows, hkeeps, hrows⟩ := hend.rows
  rw [Host.rows, hkeeps.rows_eq, hrows, hend.count]
  exact (UInt32.toNat_ofNat_of_lt' hfew).symm

theorem newMissed_rows_eq_count_of_two :
    let now : Timestamp := ⟨⟨2024, 1, 2, by decide⟩, 3, 4, 5, 0, by decide⟩
    let call : Call := ⟨⟨some "tel", "555"⟩, none, now, .incomingMissed, none, none⟩
    let host : Host := ⟨.ofFiles (.blank ["home"]), .journal "calls.jsonl",
      .dispatcher [.log, .journal ⟨"notices.jsonl", 1⟩] false, .standard, [.recorder, .notifier], []⟩
    let h := host.run [(now, .event ⟨call, .ringing, .disconnected⟩),
      (now, .receive (.broadcast .callBack none)), (now, .event ⟨call, .ringing, .disconnected⟩)]
    h.count = 2 ∧ h.rows.count .newMissed = 2 := by
  intro now call host h
  have hdelivered : ∀ step ∈ [(now, HostStep.event ⟨call, .ringing, .disconnected⟩),
      (now, .receive (.broadcast .callBack none)), (now, .event ⟨call, .ringing, .disconnected⟩)],
      step.2.IsDelivered := by
    intro step hstep
    simp only [List.mem_cons, List.not_mem_nil, or_false] at hstep
    rcases hstep with rfl | rfl | rfl <;> trivial
  have hrows : h.rows.count .newMissed = h.count.toNat := by
    apply newMissed_rows_eq_count (h := host) rfl rfl rfl nofun rfl hdelivered (by decide)
    rintro _ ⟨⟩
    refine ⟨rfl, ?_, ?_⟩
    · intro sink hsink
      simp only [host, Outlet.sinks, List.mem_cons, List.not_mem_nil, or_false] at hsink
      rcases hsink with rfl | rfl
      · trivial
      · change _ ∉ _
        decide
    · decide +kernel
  have hcount : h.count = 2 := by decide +kernel
  rw [hrows, hcount]
  exact ⟨rfl, rfl⟩

theorem run_event (now : Timestamp) (e : CallEvent) (h : Host) :
    h.run [(now, .event e)] = h.changeState now e := rfl

/-- A missed call is counted, but its row is lost, where the call log stands in the spare file of a
full journal of notifications. -/
theorem newMissed_rows_ne_count_of_spareFile :
    let now : Timestamp := ⟨⟨2024, 1, 2, by decide⟩, 3, 4, 5, 0, by decide⟩
    let call : Call := ⟨⟨some "tel", "555"⟩, none, now, .incomingMissed, none, none⟩
    let rs : List NotificationRecord := List.replicate 200 ⟨now, .cancel, 1, none⟩
    let files := (Files.blank ["home"]).put ["home", "notices.jsonl"]
      (.file (Journal.content (rs.map NotificationRecord.toJson)))
    let host : Host := ⟨.ofFiles files, .journal "notices.tmp",
      .direct (.journal ⟨"notices.jsonl", 0⟩), .standard, [.recorder, .notifier], []⟩
    let h := host.run [(now, .event ⟨call, .ringing, .disconnected⟩)]
    (host.count = 0 ∧ host.rows.count .newMissed = 0 ∧
      files.node? (files.place "notices.tmp") = none ∧ h.refusals = host.refusals) ∧
      h.rows.count .newMissed = 0 ∧ h.count = 1 := by
  intro now call rs files host h
  have hread :
      NotificationJournal.read (Journal.content (rs.map NotificationRecord.toJson)) = rs := by
    apply NotificationJournal.read_content
    intro r hr
    rw [List.eq_of_mem_replicate hr]
    rintro _ ⟨⟩
  have hlockable (name : String) (hparent : Path.parent? name = some "")
      (hadmits : files.admits (Path.lockFile name) = true) : Journal.Lockable name files := by
    refine ⟨fun parent hsome hne => ?_, hadmits⟩
    cases hparent.symm.trans hsome
    exact absurd rfl hne
  have hcollides : Collides "notices.tmp" ⟨"notices.jsonl", 0⟩ host := by
    refine ⟨rfl, rfl, rfl, rfl, ?_, hlockable _ rfl rfl, rfl, ?_, rfl⟩
    · decide
    · refine ⟨_, rfl, Journal.tail_content _, ?_⟩
      rw [hread]
      exact Nat.le_refl 200
  obtain ⟨hrefusals, hcount, hrows⟩ := hcollides.changeState (hlockable _ rfl rfl) rfl now
    (e := ⟨call, .ringing, .disconnected⟩) rfl
  have hrun : h = host.changeState now ⟨call, .ringing, .disconnected⟩ := run_event now _ host
  rw [hrun, hrefusals, hrows, hcount]
  exact ⟨⟨rfl, rfl, rfl, rfl⟩, rfl, rfl⟩

end Host

end CallNotice
