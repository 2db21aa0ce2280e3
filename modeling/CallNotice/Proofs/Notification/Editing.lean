import CallNotice.Notification.Outlet
import CallNotice.Proofs.Files.Sparing

namespace CallNotice

open Act Journal

variable {paths : List String}

namespace NotificationJournal

variable {path : String} {journal : NotificationJournal}

theorem works_compact {tells : LogEvent → Prop} (hpath : path ∈ paths) :
    Works paths tells (fun _ => True) (compact path) := by
  refine Works.bind (works_seize hpath) fun _ _ => ?_
  refine Works.bind (Works.readFiles _) fun found _ => ?_
  by_cases hlong : maxRecords < found.length
  · simp only [hlong, if_true]
    exact works_replace hpath _
  · simp only [hlong, if_false]
    exact Works.pure trivial

theorem works_compactIfDue (hpath : journal.path ∈ paths) :
    Works paths LogEvent.IsDebug (fun _ => True) (compactIfDue journal) := by
  unfold compactIfDue
  by_cases hdue : journal.writes % checkInterval = 0
  · simp only [hdue, if_true]
    refine Works.bind (works_compact hpath).attempt fun result _ => ?_
    cases result with
    | ok _ => exact Works.pure trivial
    | error fault => exact Works.tell rfl
  · simp only [hdue, if_false]
    exact Works.pure trivial

theorem works_append (hpath : journal.path ∈ paths) (r : NotificationRecord) :
    Works paths LogEvent.IsDebug (fun next => next.path = journal.path) (journal.append r) := by
  refine Works.bind (works_lock hpath) fun _ _ => ?_
  refine Works.bind (Journal.works_append hpath _) fun _ _ => ?_
  refine Works.bind (works_compactIfDue hpath) fun _ _ => ?_
  exact Works.pure rfl

/-- What posts and withdrawals have in common. -/
def record (r : NotificationRecord) (event : LogEvent) (journal : NotificationJournal) :
    Act NotificationJournal := do
  let next ← journal.append r
  Act.tell event
  return next

section Record

variable {r : NotificationRecord} {event : LogEvent} {next : NotificationJournal} {s s' : Scene}

theorem run_record_of_append (event : LogEvent) (h : (journal.append r).run s = (.ok next, s')) :
    (journal.record r event).run s = (.ok next, s'.tell event) := by
  rw [record, run_bind_of_ok h]
  rfl

theorem run_record_ok (h : (journal.record r event).run s = (.ok next, s')) :
    ∃ s₁, (journal.append r).run s = (.ok next, s₁) ∧ s' = s₁.tell event := by
  obtain ⟨next', s₁, happend, h⟩ := run_bind_ok h
  cases h
  exact ⟨s₁, happend, rfl⟩

theorem run_record_error {fault : Fault} (h : (journal.record r event).run s = (.error fault, s')) :
    (journal.append r).run s = (.error fault, s') := by
  obtain happend | ⟨next, s₁, -, h⟩ := run_bind_error h
  · exact happend
  · cases h

theorem notify_eq_record (now : Timestamp) (id : Int32) (n : Notification) :
    journal.notify now id n =
      journal.record ⟨now, .notify, id, some n⟩ (.postRecorded id journal.path) := rfl

theorem cancel_eq_record (now : Timestamp) (id : Int32) : journal.cancel now id =
    journal.record ⟨now, .cancel, id, none⟩ (.withdrawalRecorded id journal.path) := rfl

end Record

theorem works_record (hpath : journal.path ∈ paths) (r : NotificationRecord) {event : LogEvent}
    (hevent : event.IsDebug) :
    Works paths LogEvent.IsDebug (fun next => next.path = journal.path)
      (journal.record r event) := by
  refine Works.bind (works_append hpath r) fun next hnext => ?_
  refine Works.bind (Works.tell hevent) fun _ _ => ?_
  exact Works.pure hnext

variable (now : Timestamp) (id : Int32)

theorem works_notify (hpath : journal.path ∈ paths) (n : Notification) :
    Works paths LogEvent.IsDebug (fun next => next.path = journal.path)
      (journal.notify now id n) :=
  works_record hpath _ rfl

theorem works_cancel (hpath : journal.path ∈ paths) :
    Works paths LogEvent.IsDebug (fun next => next.path = journal.path) (journal.cancel now id) :=
  works_record hpath _ rfl

end NotificationJournal

namespace Sink

def path? : Sink → Option String
  | journal j => some j.path
  | _ => none

def Avoids (here : List String) (p : List String) : Sink → Prop
  | journal j => p ∉ places here j.path
  | _ => True

theorem avoids_iff {here p : List String} {sink : Sink} :
    sink.Avoids here p ↔ ∀ path ∈ sink.path?, p ∉ places here path := by
  cases sink with
  | journal j => exact ⟨fun h _ hpath => Option.some.inj hpath ▸ h, fun h => h _ rfl⟩
  | _ => exact ⟨fun _ => nofun, fun _ => trivial⟩

variable {sink : Sink} (now : Timestamp) (id : Int32)

theorem works_log {event : LogEvent} (hevent : event.AcceptsRows) :
    Works paths LogEvent.AcceptsRows (fun next => next.path? = none)
      (do Act.tell event; return log) := by
  refine Works.bind (Works.tell hevent) fun _ _ => ?_
  exact Works.pure rfl

theorem works_journal {j : NotificationJournal} {act : Act NotificationJournal}
    (hact : Works paths LogEvent.IsDebug (fun next => next.path = j.path) act) :
    Works paths LogEvent.AcceptsRows (fun next => next.path? = some j.path)
      (return journal (← act)) := by
  have hquiet := hact.mono (fun _ => id) fun _ => LogEvent.acceptsRows_of_isDebug
  exact Works.bind hquiet fun next hnext => Works.pure (congrArg some hnext)

theorem works_notify (hpath : ∀ path ∈ sink.path?, path ∈ paths) (n : Notification) :
    Works paths LogEvent.AcceptsRows (fun next => next.path? = sink.path?)
      (sink.notify now id n) := by
  cases sink with
  | memory m => exact Works.pure rfl
  | log => exact works_log rfl
  | journal j => exact works_journal (NotificationJournal.works_notify now id (hpath _ rfl) n)
  | unavailable => exact Works.throw _

theorem works_cancel (hpath : ∀ path ∈ sink.path?, path ∈ paths) :
    Works paths LogEvent.AcceptsRows (fun next => next.path? = sink.path?)
      (sink.cancel now id) := by
  cases sink with
  | memory m => exact Works.pure rfl
  | log => exact works_log rfl
  | journal j => exact works_journal (NotificationJournal.works_cancel now id (hpath _ rfl))
  | unavailable => exact Works.throw _

end Sink

namespace Outlet

def journals (o : Outlet) : List String := o.sinks.filterMap Sink.path?

def written : Outlet → List String
  | dispatcher _ true => []
  | o => o.journals

def Avoids (here : List String) (p : List String) (o : Outlet) : Prop :=
  ∀ sink ∈ o.sinks, sink.Avoids here p

theorem avoids_iff {here p : List String} {o : Outlet} :
    o.Avoids here p ↔ ∀ path ∈ o.journals, p ∉ places here path := by
  constructor
  · intro h path hpath
    obtain ⟨sink, hsink, hpath⟩ := List.mem_filterMap.mp hpath
    exact Sink.avoids_iff.mp (h sink hsink) path hpath
  · exact fun h sink hsink => Sink.avoids_iff.mpr fun path hpath =>
      h path (List.mem_filterMap.mpr ⟨sink, hsink, hpath⟩)

theorem mem_journals_of_written {o : Outlet} {path : String} (h : path ∈ o.written) :
    path ∈ o.journals := by
  unfold written at h
  split at h
  · exact absurd h List.not_mem_nil
  · exact h

structure SameJournals (o next : Outlet) : Prop where
  journals : next.journals = o.journals
  written : next.written = o.written

theorem SameJournals.trans {o o' o'' : Outlet} (h : SameJournals o o') (h' : SameJournals o' o'') :
    SameJournals o o'' := ⟨h'.journals.trans h.journals, h'.written.trans h.written⟩

variable {o : Outlet} {sink : Sink} (now : Timestamp) (id : Int32)

theorem run_turn (act : Act Sink) (failed : Fault → LogEvent) (sink : Sink) (s : Scene) :
    (turn act failed sink).run s =
      match act.run s with
      | (.ok next, s') => (.ok next, s')
      | (.error fault, s') => (.ok sink, s'.tell (failed fault)) := by
  rw [turn, run_bind_of_ok (run_attempt act s)]
  rcases act.run s with ⟨fault | next, s'⟩ <;> rfl

theorem works_turn {act : Act Sink} {failed : Fault → LogEvent}
    (hact : Works paths LogEvent.AcceptsRows (fun next => next.path? = sink.path?) act)
    (hfailed : ∀ fault, (failed fault).AcceptsRows) :
    Works paths LogEvent.AcceptsRows (fun next => next.path? = sink.path?)
      (turn act failed sink) := by
  refine Works.bind hact.attempt fun result hresult => ?_
  cases result with
  | ok next => exact Works.pure (hresult next rfl)
  | error fault =>
    refine Works.bind (Works.tell (hfailed fault)) fun _ _ => ?_
    exact Works.pure rfl

theorem works_announce (line : Sink → String) (sink : Sink) :
    Works paths LogEvent.AcceptsRows (fun next => next.path? = sink.path?)
      (announce line sink) := by
  refine Works.bind (Works.say _) fun _ _ => ?_
  exact Works.pure rfl

theorem sameJournals_dispatcher {sinks next : List Sink} (dryRun : Bool)
    (h : List.Forall₂ (fun sink next => Sink.path? next = sink.path?) sinks next) :
    SameJournals (dispatcher sinks dryRun) (dispatcher next dryRun) := by
  have hjournals : next.filterMap Sink.path? = sinks.filterMap Sink.path? := by
    induction h with
    | nil => rfl
    | cons hfirst _ ih => rw [List.filterMap_cons, List.filterMap_cons, hfirst, ih]
  cases dryRun with
  | true => exact ⟨hjournals, rfl⟩
  | false => exact ⟨hjournals, hjournals⟩

theorem works_dispatch {sinks : List Sink} {f : Sink → Act Sink} (dryRun : Bool)
    (hf : ∀ sink ∈ sinks,
      Works paths LogEvent.AcceptsRows (fun next => next.path? = sink.path?) (f sink)) :
    Works paths LogEvent.AcceptsRows (SameJournals (dispatcher sinks dryRun))
      (return dispatcher (← sinks.mapM f) dryRun) :=
  Works.bind (Works.mapM hf) fun _ hnext => Works.pure (sameJournals_dispatcher dryRun hnext)

theorem works_direct {act : Act Sink}
    (hact : Works paths LogEvent.AcceptsRows (fun next => next.path? = sink.path?) act) :
    Works paths LogEvent.AcceptsRows (SameJournals (direct sink)) (return direct (← act)) := by
  refine Works.bind hact fun next hnext => Works.pure ?_
  have hjournals : [next].filterMap Sink.path? = [sink].filterMap Sink.path? := by
    rw [List.filterMap_cons, List.filterMap_cons, hnext]
  exact ⟨hjournals, hjournals⟩

theorem mem_journals (o : Outlet) {path : String} (hsink : sink ∈ o.sinks)
    (hpath : path ∈ sink.path?) : path ∈ o.journals := List.mem_filterMap.mpr ⟨sink, hsink, hpath⟩

/-- Hands a request to every sink; `f` says what it is for one of them. -/
def request (f : Sink → Act Sink) (line : Sink → String) (failed : String → Fault → LogEvent) :
    Outlet → Act Outlet
  | direct s => return direct (← f s)
  | dispatcher sinks true => return dispatcher (← sinks.mapM (announce line)) true
  | dispatcher sinks false =>
    return dispatcher (← sinks.mapM fun s => turn (f s) (failed s.name) s) false

theorem notify_eq_request (n : Notification) (o : Outlet) :
    o.notify now id n = o.request (fun s => s.notify now id n) (postLine id)
      fun name => .sinkPostFailed name id := by
  cases o with
  | direct sink => rfl
  | dispatcher sinks dryRun => cases dryRun <;> rfl

theorem cancel_eq_request (o : Outlet) :
    o.cancel now id = o.request (fun s => s.cancel now id) (withdrawLine id)
      fun name => .sinkWithdrawFailed name id := by
  cases o with
  | direct sink => rfl
  | dispatcher sinks dryRun => cases dryRun <;> rfl

theorem works_request {f : Sink → Act Sink} {line : Sink → String}
    {failed : String → Fault → LogEvent} (o : Outlet)
    (hf : ∀ sink ∈ o.sinks, Works o.journals LogEvent.AcceptsRows
      (fun next => next.path? = sink.path?) (f sink))
    (hfailed : ∀ name fault, (failed name fault).AcceptsRows) :
    Works o.written LogEvent.AcceptsRows (SameJournals o) (o.request f line failed) := by
  cases o with
  | direct sink => exact works_direct (hf sink List.mem_cons_self)
  | dispatcher sinks dryRun =>
    cases dryRun with
    | true => exact works_dispatch true fun sink _ => works_announce _ sink
    | false => exact works_dispatch false fun sink hsink => works_turn (hf sink hsink) (hfailed _)

theorem works_notify (o : Outlet) (n : Notification) :
    Works o.written LogEvent.AcceptsRows (SameJournals o) (o.notify now id n) := by
  rw [notify_eq_request]
  apply works_request o _ fun _ _ => rfl
  exact fun sink hsink => sink.works_notify now id (fun _ => o.mem_journals hsink) n

theorem works_cancel (o : Outlet) :
    Works o.written LogEvent.AcceptsRows (SameJournals o) (o.cancel now id) := by
  rw [cancel_eq_request]
  apply works_request o _ fun _ _ => rfl
  exact fun sink hsink => sink.works_cancel now id fun _ => o.mem_journals hsink

end Outlet

end CallNotice
