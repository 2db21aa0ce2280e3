import CallNotice.Proofs.Discretion.Scene
import CallNotice.Proofs.Notification.Memories

namespace CallNotice

open Act

def Intent.anonymous (i : Intent) : Intent :=
  { i with data := (i.data.filter fun handle => !handle.isEmpty).map fun _ => Handle.none }

def Button.anonymous (b : Button) : Button := { b with intent := b.intent.anonymous }

namespace Notification

def anonymous (n : Notification) : Notification :=
  { n with
    text := ""
    contentIntent := n.contentIntent.anonymous
    deleteIntent := n.deleteIntent.map Intent.anonymous
    buttons := n.buttons.map Button.anonymous
    largeIcon := n.largeIcon.map fun _ => ⟨0, 0, []⟩ }

variable {n n' : Notification}

theorem title_eq (h : n.anonymous = n'.anonymous) : n.title = n'.title := by
  have htitle (n : Notification) : n.anonymous.title = n.title := rfl
  rw [← htitle, h, htitle]

theorem buttonTitles_eq (h : n.anonymous = n'.anonymous) :
    n.buttons.map Button.title = n'.buttons.map Button.title := by
  have htitles (n : Notification) :
      n.anonymous.buttons.map Button.title = n.buttons.map Button.title := by
    rw [anonymous, List.map_map]
    rfl
  rw [← htitles, h, htitles]

theorem largeIcon_eq (h : n.anonymous = n'.anonymous) :
    n.largeIcon.isSome = n'.largeIcon.isSome := by
  have hicon (n : Notification) : n.anonymous.largeIcon.isSome = n.largeIcon.isSome :=
    Option.isSome_map
  rw [← hicon, h, hicon]

end Notification

namespace Board

variable {α β : Type} (f : α → β)

def mapValues (board : Board α) : Board β := board.map (Prod.map id f)

theorem mapValues_insert (i : Int32) (a : α) (board : Board α) :
    (board.insert i a).mapValues f = (board.mapValues f).insert i (f a) := by
  induction board with
  | nil => rfl
  | cons e rest ih =>
    obtain ⟨j, b⟩ := e
    change (insert i a ((j, b) :: rest)).mapValues f = insert i (f a) ((j, f b) :: mapValues f rest)
    rw [insert, insert]
    by_cases hlt : i < j
    · rw [if_pos hlt, if_pos hlt]
      rfl
    by_cases heq : i = j
    · rw [if_neg hlt, if_neg hlt, if_pos heq, if_pos heq]
      rfl
    · rw [if_neg hlt, if_neg hlt, if_neg heq, if_neg heq, ← ih]
      rfl

theorem mapValues_erase (i : Int32) (board : Board α) :
    (board.erase i).mapValues f = (board.mapValues f).erase i := by
  rw [mapValues, mapValues, erase, erase, List.filter_map]
  rfl

theorem get?_mapValues (i : Int32) (board : Board α) :
    (board.mapValues f).get? i = (board.get? i).map f := by
  induction board with
  | nil => rfl
  | cons e rest ih =>
    obtain ⟨j, b⟩ := e
    change get? i ((j, f b) :: mapValues f rest) = _
    rw [get?_cons, get?_cons, ih]
    by_cases h : i = j
    · rw [if_pos h, if_pos h, Option.map_some]
    · rw [if_neg h, if_neg h]

end Board

namespace NotificationJournal

open Scene Journal

theorem keepLatest_eq {latest latest' : Board NotificationRecord}
    (h : latest.mapValues NotificationRecord.subject = latest'.mapValues NotificationRecord.subject)
    {r r' : NotificationRecord} (hr : r.subject = r'.subject) :
    (keepLatest latest r).mapValues NotificationRecord.subject =
      (keepLatest latest' r').mapValues NotificationRecord.subject := by
  obtain ⟨hkind, hid⟩ := Prod.mk.inj hr
  rw [keepLatest, keepLatest, ← hkind, ← hid]
  cases r.kind with
  | notify => rw [Board.mapValues_insert, Board.mapValues_insert, h, hr]
  | cancel => rw [Board.mapValues_erase, Board.mapValues_erase, h]

theorem latestOf_eq {rs rs' : List NotificationRecord}
    (h : rs.map NotificationRecord.subject = rs'.map NotificationRecord.subject) :
    (latestOf rs).map NotificationRecord.subject =
      (latestOf rs').map NotificationRecord.subject := by
  have hlatest (latest : Board NotificationRecord) : (latest.map Prod.snd).map
      NotificationRecord.subject = (latest.mapValues NotificationRecord.subject).map Prod.snd := by
    rw [Board.mapValues, List.map_map, List.map_map]
    rfl
  have hfold : (rs.foldl keepLatest .empty).mapValues NotificationRecord.subject =
      (rs'.foldl keepLatest .empty).mapValues NotificationRecord.subject :=
    List.rel_foldl (R := fun r r' : NotificationRecord => r.subject = r'.subject)
      (P := fun latest latest' : Board NotificationRecord =>
        latest.mapValues NotificationRecord.subject = latest'.mapValues NotificationRecord.subject)
      (fun _ _ hlatest _ _ hr => keepLatest_eq hlatest hr) rfl (Outline.forall₂_of_map_eq h)
  rw [latestOf, latestOf, hlatest, hlatest, hfold]

theorem couples_compact_alike (path : String) :
    Couples Alike (fun _ _ => Alike) Alike (compact path) (compact path) := by
  have hseize := Couples.bind (isUniform_alike.couples_lock path) fun _ _ =>
    couples_openToRead_alike path
  refine Couples.bind hseize fun _ _ => ?_
  have hread : Matches Alike
      (fun rs rs' => rs.map NotificationRecord.subject = rs'.map NotificationRecord.subject)
      (readFiles (records path)) (readFiles (records path)) := by
    apply Couples.readFiles
    intro s t h
    rw [records, records, values_eq, values_eq]
    exact ⟨Outline.records_eq (h.files.held path), h⟩
  refine Matches.bind hread fun rs rs' hrs => ?_
  have hlength : rs.length = rs'.length := by
    rw [← List.length_map (f := NotificationRecord.subject), hrs, List.length_map]
  -- What is kept of the records may differ, but not whether there are too many.
  rw [hlength]
  by_cases hlong : maxRecords < rs'.length
  · rw [if_pos hlong, if_pos hlong]
    have hlines := Outline.forall₂_sameLine Outline.sameLine_record (latestOf_eq hrs)
    exact couples_replace_alike path hlines
  · rw [if_neg hlong, if_neg hlong]
    exact Couples.pure fun _ _ h => h

theorem couples_compactIfDue_alike (journal : NotificationJournal) :
    Couples Alike (fun _ _ => Alike) Alike (compactIfDue journal) (compactIfDue journal) := by
  unfold compactIfDue
  by_cases hdue : journal.writes % checkInterval = 0
  · rw [if_pos hdue]
    have hcompact : Matches Alike (fun _ _ => True) (compact journal.path) (compact journal.path) :=
      (couples_compact_alike journal.path).conseq (fun _ _ h => h) (fun _ _ _ _ h => ⟨trivial, h⟩)
        fun _ _ h => h
    refine Matches.bind hcompact.attempt fun result result' hresult => ?_
    cases hresult with
    | ok _ => exact Couples.pure fun _ _ h => h
    | error fault => exact couples_tell_alike _
  · rw [if_neg hdue]
    exact Couples.pure fun _ _ h => h

theorem matches_append (journal : NotificationJournal) {r r' : NotificationRecord}
    (h : r.subject = r'.subject) : Matches Alike (· = ·) (journal.append r) (journal.append r') := by
  refine Couples.bind (isUniform_alike.couples_lock journal.path) fun _ _ => ?_
  refine Couples.bind (couples_append_alike journal.path (Outline.sameLine_record h)) fun _ _ => ?_
  refine Couples.bind (couples_compactIfDue_alike journal) fun _ _ => ?_
  exact Matches.pure rfl

theorem matches_record (journal : NotificationJournal) {r r' : NotificationRecord}
    (event : LogEvent) (h : r.subject = r'.subject) :
    Matches Alike (· = ·) (journal.record r event) (journal.record r' event) := by
  refine Matches.bind (matches_append journal h) fun next _ hnext => ?_
  exact Couples.bind (couples_tell_alike _) fun _ _ => Matches.pure hnext

variable (now now' : Timestamp) (id : Int32) (journal : NotificationJournal)

theorem matches_notify (n n' : Notification) :
    Matches Alike (· = ·) (journal.notify now id n) (journal.notify now' id n') :=
  matches_record journal (.postRecorded id journal.path) rfl

theorem matches_cancel :
    Matches Alike (· = ·) (journal.cancel now id) (journal.cancel now' id) :=
  matches_record journal (.withdrawalRecorded id journal.path) rfl

end NotificationJournal

inductive SinkStep.Alike : SinkStep → SinkStep → Prop
  | notify (id : Int32) {n n' : Notification} (h : n.anonymous = n'.anonymous) :
    Alike (.notify id n) (.notify id n')
  | cancel (id : Int32) : Alike (.cancel id) (.cancel id)

def MemorySink.outline (m : MemorySink) : Board Notification :=
  m.active.mapValues Notification.anonymous

theorem MemorySink.outline_notify (id : Int32) (n : Notification) (m : MemorySink) :
    (m.notify id n).outline = m.outline.insert id n.anonymous :=
  Board.mapValues_insert _ id n m.active

theorem MemorySink.outline_cancel (id : Int32) (m : MemorySink) :
    (m.cancel id).outline = m.outline.erase id := Board.mapValues_erase _ id m.active

namespace Sink

inductive Alike : Sink → Sink → Prop
  | memory {m m' : MemorySink} (h : m.outline = m'.outline) : Alike (memory m) (memory m')
  | log : Alike log log
  | journal (journal : NotificationJournal) : Alike (.journal journal) (.journal journal)
  | unavailable : Alike unavailable unavailable

protected theorem Alike.rfl {sink : Sink} : Alike sink sink := by
  cases sink with
  | memory m => exact .memory rfl
  | log => exact .log
  | journal journal => exact .journal journal
  | unavailable => exact .unavailable

theorem Alike.name {sink sink' : Sink} (h : Alike sink sink') : sink.name = sink'.name := by
  cases h <;> rfl

theorem matches_perform {sink sink' : Sink} (h : Alike sink sink') {step step' : SinkStep}
    (hstep : step.Alike step') (now now' : Timestamp) :
    Matches Scene.Alike Alike (sink.perform now step) (sink'.perform now' step') := by
  cases h with
  | @memory m m' h =>
    cases hstep with
    | @notify id n n' hn =>
      have houtline : (m.notify id n).outline = (m'.notify id n').outline := by
        rw [MemorySink.outline_notify, MemorySink.outline_notify, h, hn]
      exact Matches.pure (.memory houtline)
    | cancel id =>
      have houtline : (m.cancel id).outline = (m'.cancel id).outline := by
        rw [MemorySink.outline_cancel, MemorySink.outline_cancel, h]
      exact Matches.pure (.memory houtline)
  | log =>
    cases hstep with
    | notify id hn =>
      change Matches _ _ (do
        Act.tell (.posted id _ (List.map Button.title _) _)
        return log) (do
        Act.tell (.posted id _ (List.map Button.title _) _)
        return log)
      rw [Notification.title_eq hn, Notification.buttonTitles_eq hn, Notification.largeIcon_eq hn]
      exact Couples.bind (Scene.couples_tell_alike _) fun _ _ => Matches.pure .log
    | cancel id =>
      exact Couples.bind (Scene.couples_tell_alike _) fun _ _ => Matches.pure .log
  | journal journal =>
    have hnext {act act' : Act NotificationJournal} (h : Matches Scene.Alike (· = ·) act act') :
        Matches Scene.Alike Alike (return .journal (← act)) (return .journal (← act')) := by
      refine Matches.bind h ?_
      rintro next _ rfl
      exact Matches.pure (.journal next)
    cases hstep with
    | notify id hn => exact hnext (journal.matches_notify now now' id _ _)
    | cancel id => exact hnext (journal.matches_cancel now now' id)
  | unavailable => cases hstep <;> exact Matches.throw _

end Sink

namespace Outlet

inductive Alike : Outlet → Outlet → Prop
  | direct {sink sink' : Sink} (h : sink.Alike sink') : Alike (direct sink) (direct sink')
  | dispatcher {sinks sinks' : List Sink} (h : List.Forall₂ Sink.Alike sinks sinks')
    (dryRun : Bool) : Alike (dispatcher sinks dryRun) (dispatcher sinks' dryRun)

variable {o o' : Outlet}

namespace Alike

protected theorem rfl : Alike o o := by
  cases o with
  | direct sink => exact .direct .rfl
  | dispatcher sinks dryRun => exact .dispatcher (List.forall₂_same.mpr fun _ _ => .rfl) dryRun

theorem name (h : Alike o o') : o.name = o'.name := by
  cases h with
  | direct h => exact h.name
  | dispatcher _ _ => rfl

theorem memories (h : Alike o o') :
    o.memories.map MemorySink.outline = o'.memories.map MemorySink.outline := by
  have hsinks {sinks sinks' : List Sink} (h : List.Forall₂ Sink.Alike sinks sinks') :
      (sinks.filterMap Sink.memory?).map MemorySink.outline =
        (sinks'.filterMap Sink.memory?).map MemorySink.outline := by
    induction h with
    | nil => rfl
    | cons hsink _ ih =>
      cases hsink with
      | memory h => exact congrArg₂ List.cons h ih
      | _ => exact ih
  cases h with
  | direct h => exact hsinks (.cons h .nil)
  | dispatcher h _ => exact hsinks h

end Alike

theorem matches_turn {act act' : Act Sink} {sink sink' : Sink}
    (hact : Matches Scene.Alike Sink.Alike act act') (h : sink.Alike sink')
    (failed : Fault → LogEvent) :
    Matches Scene.Alike Sink.Alike (turn act failed sink) (turn act' failed sink') := by
  refine Matches.bind hact.attempt fun result result' hresult => ?_
  cases hresult with
  | ok hnext => exact Matches.pure hnext
  | error fault => exact Couples.bind (Scene.couples_tell_alike _) fun _ _ => Matches.pure h

theorem matches_announce (line : Sink → String) {sink sink' : Sink} (h : sink.Alike sink') :
    Matches Scene.Alike Sink.Alike (announce line sink) (announce line sink') :=
  fun _ _ hst => .ok ⟨h, hst.log, hst.files⟩

theorem matches_dispatch {sinks sinks' : List Sink} {f g : Sink → Act Sink} (dryRun : Bool)
    (h : List.Forall₂ Sink.Alike sinks sinks')
    (hfg : ∀ sink sink', sink.Alike sink' → Matches Scene.Alike Sink.Alike (f sink) (g sink')) :
    Matches Scene.Alike Alike (return dispatcher (← sinks.mapM f) dryRun)
      (return dispatcher (← sinks'.mapM g) dryRun) :=
  Matches.bind (Matches.mapM h hfg) fun _ _ hnext => Matches.pure (.dispatcher hnext dryRun)

theorem matches_request (h : Alike o o') {f g : Sink → Act Sink}
    (hfg : ∀ {sink sink' : Sink}, sink.Alike sink' →
      Matches Scene.Alike Sink.Alike (f sink) (g sink'))
    (line : Sink → String) (failed : String → Fault → LogEvent) :
    Matches Scene.Alike Alike (o.request f line failed) (o'.request g line failed) := by
  cases h with
  | direct h => exact Matches.bind (hfg h) fun _ _ hnext => Matches.pure (.direct hnext)
  | dispatcher h dryRun =>
    cases dryRun with
    | true => exact matches_dispatch true h fun _ _ => matches_announce line
    | false =>
      refine matches_dispatch false h fun sink sink' h => ?_
      rw [h.name]
      exact matches_turn (hfg h) h _

variable (now now' : Timestamp) (id : Int32)

theorem matches_notify (h : Alike o o') {n n' : Notification} (hn : n.anonymous = n'.anonymous) :
    Matches Scene.Alike Alike (o.notify now id n) (o'.notify now' id n') := by
  rw [notify_eq_request, notify_eq_request]
  exact matches_request h (fun h => Sink.matches_perform h (.notify id hn) now now') _ _

theorem matches_cancel (h : Alike o o') :
    Matches Scene.Alike Alike (o.cancel now id) (o'.cancel now' id) := by
  rw [cancel_eq_request, cancel_eq_request]
  exact matches_request h (fun h => Sink.matches_perform h (.cancel id) now now') _ _

end Outlet

end CallNotice
