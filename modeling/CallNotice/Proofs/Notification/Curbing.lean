import CallNotice.Proofs.Notification.Length
import CallNotice.Proofs.Notification.Memories

namespace CallNotice

open Files Act Journal NotificationJournal

variable {ids : List Int32} {skipped most : Nat} {path : String} {s s' : Scene}

/-- The journal is at this path, and as long as no reduction is skipped it is at most as long as it can
be after its writes. -/
structure NotificationJournal.Curbed (ids : List Int32) (skipped : Nat) (path : String)
    (j : NotificationJournal) (s : Scene) : Prop where
  path_eq : j.path = path
  skips : skipped ≤ s.skips
  short : s.skips ≤ skipped → ShortAt ids (limit ids + unchecked j.writes) path s.files

namespace NotificationJournal

variable {j : NotificationJournal}

theorem curbed_of_shortAt (h : ShortAt ids most path s.files)
    (hmost : most ≤ limit ids + unchecked j.writes) (hpath : j.path = path) :
    Curbed ids s.skips path j s := ⟨hpath, Nat.le_refl _, fun _ => h.mono hmost⟩

namespace Curbed

theorem length_records_le (h : Curbed ids skipped path j s) (hskips : s.skips ≤ skipped) :
    (records path s.files).length ≤ limit ids + unchecked 0 :=
  Nat.le_trans (h.short hskips).length_records_le (Nat.add_le_add_left (unchecked_le j.writes) _)

theorem diluted (h : Curbed ids skipped path j s) (hdilutes : Dilutes path s s') :
    Curbed ids skipped path j s' := by
  refine ⟨h.path_eq, Nat.le_trans h.skips hdilutes.skips, fun hle => ?_⟩
  exact hdilutes.short ids _ (h.short (Nat.le_trans hdilutes.skips hle))

theorem reopened (h : Curbed ids skipped path j s) :
    Curbed ids skipped path { j with writes := 0 } s := by
  refine ⟨h.path_eq, h.skips, fun hle => ?_⟩
  -- The first write looks at the length, so that a journal just opened may be as long as any.
  exact (h.short hle).mono (Nat.add_le_add_left (unchecked_le j.writes) _)

end Curbed

theorem sustains_append {r : NotificationRecord} (hid : r.id ∈ ids) :
    Sustains (Curbed ids skipped path) j (j.append r) := by
  have hworks := works_append (List.mem_singleton_self j.path) r
  constructor
  · intro s s' next hrun h
    obtain rfl := h.path_eq
    have hle := (hworks s).1.skips_le
    rw [hrun] at hle
    refine ⟨(hworks s).2 next (congrArg Prod.fst hrun), Nat.le_trans h.skips hle, fun hskips => ?_⟩
    have hshort := h.short (Nat.le_trans hle hskips)
    exact (shortAt_append hrun hid (Nat.le_trans hskips h.skips) hshort).2
  · intro s s' fault hrun h
    obtain rfl := h.path_eq
    exact h.diluted (dilutes_append_error hrun)

theorem sustains_record {r : NotificationRecord} (hid : r.id ∈ ids) (event : LogEvent) :
    Sustains (Curbed ids skipped path) j (j.record r event) := by
  constructor
  · intro s s' next hrun h
    obtain ⟨s₁, happend, rfl⟩ := run_record_ok hrun
    exact ((sustains_append hid).ok happend h).diluted (.tell path event s₁)
  · intro s s' fault hrun h
    exact (sustains_append hid).error (run_record_error hrun) h

theorem skips_record (h : Usable j.path s) (r : NotificationRecord) {event : LogEvent}
    (hevent : event.skipsCompaction = false) :
    ((j.record r event).run s).2.skips = s.skips := by
  have hsame := skips_append h r
  obtain ⟨s', happend, -⟩ := run_append_of_usable h r
  rw [happend] at hsame
  rw [run_record_of_append event happend, Scene.skips_tell, hevent]
  exact hsame

end NotificationJournal

namespace Sink

def journal? : Sink → Option NotificationJournal
  | journal j => some j
  | _ => none

def Curbed (ids : List Int32) (skipped : Nat) (path : String) (sinks : List Sink) (s : Scene) : Prop :=
  ∃ j, sinks.filterMap journal? = [j] ∧ j.Curbed ids skipped path s

variable {sinks before after : List Sink} {sink next : Sink} {j : NotificationJournal}

theorem Curbed.diluted (h : Curbed ids skipped path sinks s) (hdilutes : Dilutes path s s') :
    Curbed ids skipped path sinks s' := by
  obtain ⟨j, hj, hcurbed⟩ := h
  exact ⟨j, hj, hcurbed.diluted hdilutes⟩

theorem curbed_journal_iff : Curbed ids skipped path (before ++ journal j :: after) s ↔
    (before.filterMap journal? = [] ∧ after.filterMap journal? = []) ∧
      j.Curbed ids skipped path s := by
  rw [Curbed, List.filterMap_append, List.filterMap_cons]
  constructor
  · rintro ⟨j', hj, hcurbed⟩
    obtain ⟨hbefore, hj⟩ | ⟨-, hj⟩ := List.append_eq_singleton_iff.mp hj
    · obtain ⟨rfl, hafter⟩ := List.cons.inj hj
      exact ⟨⟨hbefore, hafter⟩, hcurbed⟩
    · cases hj
  · rintro ⟨⟨hbefore, hafter⟩, hcurbed⟩
    refine ⟨j, ?_, hcurbed⟩
    rw [hbefore, hafter]
    rfl

theorem curbed_other (hsink : sink.journal? = none) (hnext : next.journal? = none) :
    Sink.Curbed ids skipped path (before ++ sink :: after) s ↔
      Sink.Curbed ids skipped path (before ++ next :: after) s := by
  simp only [Curbed, List.filterMap_append, List.filterMap_cons, hsink, hnext]

end Sink

def SinkStep.id? : SinkStep → Option Int32
  | notify id _ => some id
  | cancel id => some id
  | reopen => none

namespace Sink

variable {step : SinkStep}

theorem sustains_log (before after : List Sink) (event : LogEvent) :
    Sustains (fun next => Curbed ids skipped path (before ++ next :: after)) log
      (do Act.tell event; return log) := by
  constructor
  · rintro s _ _ ⟨⟩ h
    exact h.diluted (.tell path event s)
  · rintro s _ _ ⟨⟩

theorem sustains_journal (before after : List Sink) {act : Act NotificationJournal}
    (hact : Sustains (NotificationJournal.Curbed ids skipped path) j act) :
    Sustains (fun next => Curbed ids skipped path (before ++ next :: after)) (journal j)
      (return journal (← act)) := by
  apply Sustains.map
  constructor
  · intro s s' next hrun h
    obtain ⟨hothers, hcurbed⟩ := curbed_journal_iff.mp h
    exact curbed_journal_iff.mpr ⟨hothers, hact.ok hrun hcurbed⟩
  · intro s s' fault hrun h
    obtain ⟨hothers, hcurbed⟩ := curbed_journal_iff.mp h
    exact curbed_journal_iff.mpr ⟨hothers, hact.error hrun hcurbed⟩

theorem sustains_perform (before after : List Sink) (sink : Sink) (now : Timestamp)
    (hid : ∀ id ∈ step.id?, id ∈ ids) :
    Sustains (fun next => Curbed ids skipped path (before ++ next :: after)) sink
      (sink.perform now step) := by
  cases sink with
  | memory m => cases step <;> exact Sustains.pure fun _ => (curbed_other rfl rfl).mp
  | log =>
    cases step with
    | reopen => exact Sustains.pure fun _ => id
    | _ => exact sustains_log before after _
  | journal j =>
    cases step with
    | notify id n => exact sustains_journal before after (sustains_record (hid id rfl) _)
    | cancel id => exact sustains_journal before after (sustains_record (hid id rfl) _)
    | reopen =>
      apply Sustains.pure
      intro s h
      obtain ⟨hothers, hcurbed⟩ := curbed_journal_iff.mp h
      exact curbed_journal_iff.mpr ⟨hothers, hcurbed.reopened⟩
  | unavailable =>
    cases step with
    | reopen => exact Sustains.pure fun _ => id
    | _ => exact Sustains.throw _

def course (sink : Sink) (s : Scene) : List (Timestamp × SinkStep) → Sink × Scene
  | [] => (sink, s)
  | (now, step) :: rest =>
    match (sink.perform now step).run s with
    | (.ok next, s') => course next s' rest
    | (.error _, s') => course sink s' rest

theorem curbed_course {steps : List (Timestamp × SinkStep)}
    (hids : ∀ step ∈ steps, ∀ id ∈ step.2.id?, id ∈ ids) (h : Curbed ids skipped path [sink] s) :
    Curbed ids skipped path [(sink.course s steps).1] (sink.course s steps).2 := by
  induction steps generalizing sink s with
  | nil => exact h
  | cons first steps ih =>
    obtain ⟨now, step⟩ := first
    have hstep : Sustains (fun next => Curbed ids skipped path [next]) sink (sink.perform now step) :=
      sustains_perform [] [] sink now (hids _ List.mem_cons_self)
    have hrest := fun step hstep => hids step (List.mem_cons_of_mem _ hstep)
    rw [course]
    rcases hrun : (sink.perform now step).run s with ⟨fault | next, s'⟩
    · exact ih hrest (hstep.error hrun h)
    · exact ih hrest (hstep.ok hrun h)

theorem skips_perform (h : Usable j.path s) (now : Timestamp) (step : SinkStep) :
    (((journal j).perform now step).run s).2.skips = s.skips := by
  cases step with
  | notify id n =>
    rw [perform, Sink.notify, snd_run_bind_pure]
    exact skips_record h _ rfl
  | cancel id =>
    rw [perform, Sink.cancel, snd_run_bind_pure]
    exact skips_record h _ rfl
  | reopen => rfl

theorem skips_course (h : Usable j.path s) (steps : List (Timestamp × SinkStep)) :
    ((journal j).course s steps).2.skips = s.skips := by
  induction steps generalizing j s with
  | nil => rfl
  | cons first steps ih =>
    obtain ⟨now, step⟩ := first
    have hsame := skips_perform h now step
    obtain ⟨j', s', hrun, husable⟩ := usable_perform h now step
    rw [hrun] at hsame
    rw [course, hrun]
    exact (ih husable).trans hsame

end Sink

namespace Outlet

theorem turn_yields (act : Act Sink) (failed : Fault → LogEvent) (sink : Sink) :
    Yields (fun _ => True) (turn act failed sink) := by
  intro s
  rw [run_turn]
  rcases act.run s with ⟨fault | next, s'⟩
  · exact ⟨sink, _, rfl, trivial⟩
  · exact ⟨next, s', rfl, trivial⟩

section Request

variable {P : List Sink → Scene → Prop} {Q : Sink → Scene → Prop} {sink : Sink}

theorem sustains_turn {act : Act Sink} {failed : Fault → LogEvent}
    (htell : ∀ sink event s, Q sink s → Q sink (s.tell event)) (hact : Sustains Q sink act) :
    Sustains Q sink (turn act failed sink) := by
  constructor
  · intro s s' next hrun h
    rw [run_turn] at hrun
    rcases hresult : act.run s with ⟨fault | next', s₁⟩
    · rw [hresult] at hrun
      cases hrun
      exact htell sink _ s₁ (hact.error hresult h)
    · rw [hresult] at hrun
      cases hrun
      exact hact.ok hresult h
  · intro s s' fault hrun
    obtain ⟨next, s₁, hyield, -⟩ := turn_yields act failed sink s
    rw [hyield] at hrun
    cases hrun

theorem sustains_announce {line : Sink → String}
    (hsay : ∀ sink line s, Q sink s → Q sink (s.say line)) :
    Sustains Q sink (announce line sink) := by
  constructor
  · rintro s _ _ ⟨⟩ h
    exact hsay sink _ s h
  · rintro s _ _ ⟨⟩

theorem sustains_request {f : Sink → Act Sink} (line : Sink → String)
    (failed : String → Fault → LogEvent) (o : Outlet)
    (htell : ∀ sinks event s, P sinks s → P sinks (s.tell event))
    (hsay : ∀ sinks line s, P sinks s → P sinks (s.say line))
    (hf : ∀ before sink after, Sustains (fun next => P (before ++ next :: after)) sink (f sink)) :
    Sustains (fun next => P next.sinks) o (o.request f line failed) := by
  cases o with
  | direct sink => exact Sustains.map (hf [] sink [])
  | dispatcher sinks dryRun =>
    cases dryRun with
    | true =>
      have hsinks : Sustains (fun next => P ([] ++ next)) sinks (sinks.mapM (announce line)) :=
        Sustains.mapM (fun sink => (yields_announce line sink).imp fun _ _ => trivial)
          (fun before sink after _ => sustains_announce fun sink => hsay _) []
      exact Sustains.map (f := (dispatcher · true)) hsinks
    | false =>
      have hsinks : Sustains (fun next => P ([] ++ next)) sinks
          (sinks.mapM fun s => turn (f s) (failed s.name) s) :=
        Sustains.mapM (fun sink => turn_yields (f sink) (failed sink.name) sink)
          (fun before sink after _ => sustains_turn (fun sink => htell _) (hf before sink after)) []
      exact Sustains.map (f := (dispatcher · false)) hsinks

end Request

variable (now : Timestamp) {id : Int32}

theorem curbed_request (step : SinkStep) (hid : ∀ id ∈ step.id?, id ∈ ids) (line : Sink → String)
    (failed : String → Fault → LogEvent) (o : Outlet) :
    Sustains (fun next => Sink.Curbed ids skipped path next.sinks) o
      (o.request (fun s => s.perform now step) line failed) := by
  apply sustains_request line failed o
  · exact fun sinks event s h => h.diluted (.tell path event s)
  · exact fun sinks line s h => h.diluted (.say path line s)
  · exact fun before sink after => sink.sustains_perform before after now hid

theorem curbed_notify (hid : id ∈ ids) (n : Notification) (o : Outlet) :
    Sustains (fun next => Sink.Curbed ids skipped path next.sinks) o (o.notify now id n) := by
  rw [notify_eq_request]
  apply curbed_request now (.notify id n)
  rintro _ ⟨⟩
  exact hid

theorem curbed_cancel (hid : id ∈ ids) (o : Outlet) :
    Sustains (fun next => Sink.Curbed ids skipped path next.sinks) o (o.cancel now id) := by
  rw [cancel_eq_request]
  apply curbed_request now (.cancel id)
  rintro _ ⟨⟩
  exact hid

end Outlet

end CallNotice
