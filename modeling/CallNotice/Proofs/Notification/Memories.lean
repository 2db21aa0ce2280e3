import CallNotice.Proofs.Notification.Refinement

namespace CallNotice

open Act

def Sink.memory? : Sink → Option MemorySink
  | memory m => some m
  | _ => none

theorem Sink.works_perform {paths : List String} {sink : Sink} (now : Timestamp) (step : SinkStep)
    (hpath : ∀ path ∈ sink.path?, path ∈ paths) :
    Works paths LogEvent.AcceptsRows (fun next => next.path? = sink.path?)
      (sink.perform now step) := by
  cases step with
  | notify id n => exact works_notify now id hpath n
  | cancel id => exact works_cancel now id hpath
  | reopen => cases sink <;> exact Works.pure rfl

namespace Outlet

def memories (o : Outlet) : List MemorySink := o.sinks.filterMap Sink.memory?

def isDry : Outlet → Bool
  | direct _ => false
  | dispatcher _ dryRun => dryRun

def IsDispatcher : Outlet → Prop
  | direct _ => False
  | dispatcher .. => True

/-- What a request, which `f` says for a sink in memory, makes of the sinks in memory. -/
structure Passes (f : MemorySink → MemorySink) (o next : Outlet) : Prop where
  isDry : next.isDry = o.isDry
  memories : next.memories = if o.isDry then o.memories else o.memories.map f

variable {f : MemorySink → MemorySink}

theorem passes_dispatcher {sinks next : List Sink}
    (h : List.Forall₂ (fun sink next => Sink.memory? next = sink.memory?.map f) sinks next) :
    Passes f (dispatcher sinks false) (dispatcher next false) := by
  refine ⟨rfl, ?_⟩
  change next.filterMap Sink.memory? = (sinks.filterMap Sink.memory?).map f
  induction h with
  | nil => rfl
  | @cons sink next sinks nexts hfirst _ ih =>
    rw [List.filterMap_cons, List.filterMap_cons, hfirst, ih]
    cases sink.memory? <;> rfl

theorem memory?_perform {now : Timestamp} {step : SinkStep} {sink next : Sink} {s : Scene}
    (h : ((sink.perform now step).run s).1 = .ok next) :
    next.memory? = sink.memory?.map (Sink.performed · step) := by
  cases sink with
  | memory m => cases step <;> (cases h; rfl)
  | log => cases step <;> (cases h; rfl)
  | journal j =>
    cases step with
    | reopen =>
      cases h
      rfl
    | _ =>
      obtain ⟨j', s₁, -, hreturn⟩ := run_bind_ok (Prod.ext h rfl)
      cases hreturn
      rfl
  | unavailable =>
    cases step with
    | reopen =>
      cases h
      rfl
    | _ => cases h

theorem memory?_of_perform_error {now : Timestamp} {step : SinkStep} {sink : Sink} {s : Scene}
    {fault : Fault} (h : ((sink.perform now step).run s).1 = .error fault) :
    sink.memory? = none := by
  cases sink with
  | memory m => cases step <;> cases h
  | _ => rfl

theorem yields_turn (now : Timestamp) (step : SinkStep) (failed : Fault → LogEvent) (sink : Sink) :
    Yields (fun next => next.memory? = sink.memory?.map (Sink.performed · step))
      (turn (sink.perform now step) failed sink) := by
  intro s
  rw [turn, run_bind_of_ok (run_attempt _ s)]
  cases hresult : ((sink.perform now step).run s).1 with
  | ok next => exact ⟨next, _, rfl, memory?_perform hresult⟩
  | error fault =>
    have hsame : sink.memory? = sink.memory?.map (Sink.performed · step) := by
      rw [memory?_of_perform_error hresult]
      rfl
    exact ⟨sink, _, rfl, hsame⟩

theorem yields_announce (line : Sink → String) (sink : Sink) :
    Yields (fun next => next = sink) (announce line sink) :=
  fun s => ⟨sink, s.say (line sink), rfl, rfl⟩

theorem run_mapM_announce (line : Sink → String) (sinks : List Sink) (s : Scene) :
    (sinks.mapM (announce line)).run s =
      (.ok sinks, { s with notes := s.notes ++ sinks.map line }) := by
  induction sinks generalizing s with
  | nil =>
    rw [List.map_nil, List.append_nil]
    rfl
  | cons sink sinks ih =>
    have hfirst : (announce line sink).run s = (.ok sink, s.say (line sink)) := rfl
    rw [run_mapM_cons hfirst (ih _), Scene.say, List.append_assoc]
    rfl

theorem run_request_dryRun (f : Sink → Act Sink) (line : Sink → String)
    (failed : String → Fault → LogEvent) (sinks : List Sink) (s : Scene) :
    ((dispatcher sinks true).request f line failed).run s =
      (.ok (dispatcher sinks true), { s with notes := s.notes ++ sinks.map line }) := by
  rw [request, run_bind_of_ok (run_mapM_announce line sinks s)]
  rfl

structure Dispatches (f : MemorySink → MemorySink) (o next : Outlet) : Prop extends
    Passes f o next where
  isDispatcher : next.IsDispatcher
  dryRun : o.isDry = true → next = o

variable (now : Timestamp) (id : Int32) (n : Notification) {o : Outlet}

theorem yields_request (step : SinkStep) {line : Sink → String}
    {failed : String → Fault → LogEvent} (h : o.IsDispatcher) :
    (o.request (fun s => s.perform now step) line failed).Yields
      (Dispatches (Sink.performed · step) o) := by
  cases o with
  | direct sink => exact h.elim
  | dispatcher sinks dryRun =>
    cases dryRun with
    | true =>
      intro s
      exact ⟨_, _, run_request_dryRun _ line failed sinks s, ⟨rfl, rfl⟩, trivial, fun _ => rfl⟩
    | false =>
      have hturn (sink : Sink) := yields_turn now step (failed sink.name) sink
      refine Yields.bind (Yields.mapM hturn sinks) fun nexts hnexts => Yields.pure ?_
      exact ⟨passes_dispatcher hnexts, trivial, fun hdry => nomatch hdry⟩

theorem passes_direct (step : SinkStep) (sink : Sink) (s : Scene) :
    Passes (Sink.performed · step) (direct sink)
      (((do return direct (← sink.perform now step) : Act Outlet).run s).1.toOption.getD
        (direct sink)) := by
  have hmemories (sink : Sink) : (direct sink).memories = sink.memory?.toList := by
    change [sink].filterMap Sink.memory? = _
    rw [List.filterMap_cons]
    cases sink.memory? <;> rfl
  rw [run_bind]
  rcases hrun : (sink.perform now step).run s with ⟨fault | next, s'⟩
  · refine ⟨rfl, ?_⟩
    change (direct sink).memories = (direct sink).memories.map _
    rw [hmemories, memory?_of_perform_error (congrArg Prod.fst hrun)]
    rfl
  · refine ⟨rfl, ?_⟩
    change (direct next).memories = (direct sink).memories.map _
    rw [hmemories, hmemories, memory?_perform (congrArg Prod.fst hrun), Option.toList_map]

theorem passes_request (step : SinkStep) (line : Sink → String)
    (failed : String → Fault → LogEvent) (o : Outlet) (s : Scene) :
    Passes (Sink.performed · step) o
      (((o.request (fun sink => sink.perform now step) line failed).run s).1.toOption.getD o) := by
  cases o with
  | direct sink => exact passes_direct now step sink s
  | dispatcher sinks dryRun =>
    have hyields : ((dispatcher sinks dryRun).request (fun sink => sink.perform now step) line
        failed).Yields (Dispatches (Sink.performed · step) (dispatcher sinks dryRun)) :=
      yields_request now step trivial
    obtain ⟨next, s', hrun, hnext⟩ := hyields s
    rw [hrun]
    exact hnext.toPasses

theorem passes_notify (o : Outlet) (s : Scene) :
    Passes (MemorySink.notify id n) o (((o.notify now id n).run s).1.toOption.getD o) := by
  rw [notify_eq_request]
  exact passes_request now (.notify id n) _ _ o s

theorem passes_cancel (o : Outlet) (s : Scene) :
    Passes (MemorySink.cancel id) o (((o.cancel now id).run s).1.toOption.getD o) := by
  rw [cancel_eq_request]
  exact passes_request now (.cancel id) _ _ o s

end Outlet

end CallNotice
