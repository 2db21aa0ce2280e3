import CallNotice.Notification.Sink
import CallNotice.Proofs.Notification.Journal

namespace CallNotice

namespace NotificationJournal

open Journal

variable {path : String} {s s' : Scene} {board : Board Notification} {r : NotificationRecord}

structure IsSound (r : NotificationRecord) : Prop where
  readBack : ∀ n ∈ r.notification, n.IsReadBack
  complete : IsComplete r

def Shows (path : String) (board : Board Notification) (files : Files) : Prop :=
  ∃ records, Keeps NotificationRecord.ofJson? path records files ∧
    (∀ r ∈ records, IsSound r) ∧ activeOf records = board

theorem shows_of_absent {files : Files} (h : files.node? (files.place path) = none) :
    Shows path .empty files :=
  ⟨[], keeps_of_absent h, fun _ hr => absurd hr List.not_mem_nil, rfl⟩

theorem active_of_shows {files : Files} (h : Shows path board files) :
    active path files = board := by
  obtain ⟨records, hkeeps, -, hboard⟩ := h
  rw [active, NotificationJournal.records, hkeeps.values, hboard]

theorem shows_append {journal next : NotificationJournal}
    (h : (journal.append r).run s = (.ok next, s')) (hshows : Shows journal.path board s.files)
    (hr : IsSound r) :
    next.path = journal.path ∧ Shows journal.path (replay board r) s'.files := by
  obtain ⟨records, hkeeps, hsound, rfl⟩ := hshows
  obtain ⟨rfl, hcontent⟩ := run_append_ok h hkeeps.isOpen
  refine ⟨rfl, ?_⟩
  have hj := NotificationRecord.ofJson?_toJson hr.readBack
  have hsound' : ∀ q ∈ records ++ [r], IsSound q := by
    intro q hq
    rcases List.mem_append.mp hq with hq | hq
    · exact hsound q hq
    · rw [List.mem_singleton.mp hq]
      exact hr
  have hboard : activeOf (records ++ [r]) = replay (activeOf records) r := by
    rw [activeOf, List.foldl_append]
    rfl
  rcases hcontent with hcontent | ⟨-, hcontent⟩
  · exact ⟨records ++ [r], hkeeps.append hj hcontent, hsound', hboard⟩
  · -- The reduced journal holds only some of the records, but they make the same board.
    have hread : read (s.files.held journal.path ++ line r.toJson) = records ++ [r] := by
      rw [read, ofContent_append_blank _ (endsBlank_of_tail_nil hkeeps.tail) hj, ← values_eq,
        hkeeps.values]
    rw [reduced, hread] at hcontent
    refine ⟨latestOf (records ++ [r]), keeps_replaced NotificationRecord.toJson ?_ hcontent, ?_, ?_⟩
    · intro q hq
      exact NotificationRecord.ofJson?_toJson (hsound' q (mem_of_mem_latestOf hq)).readBack
    · exact fun q hq => hsound' q (mem_of_mem_latestOf hq)
    · rw [activeOf_latestOf fun q hq => (hsound' q hq).complete, hboard]

end NotificationJournal

inductive SinkStep
  | notify (id : Int32) (n : Notification)
  | cancel (id : Int32)
  /-- A journal is opened anew and counts its writes from the beginning. -/
  | reopen

def SinkStep.IsRead : SinkStep → Prop
  | .notify _ n => ∃ j, Notification.ofJson? j = some n
  | _ => True

namespace Sink

open NotificationJournal Journal

def reopened : Sink → Sink
  | journal j => journal { j with writes := 0 }
  | sink => sink

def perform (now : Timestamp) (sink : Sink) : SinkStep → Act Sink
  | .notify id n => sink.notify now id n
  | .cancel id => sink.cancel now id
  | .reopen => return sink.reopened

def shown (files : Files) : Sink → Board Notification
  | memory s => s.active
  | journal j => active j.path files
  | _ => .empty

/-- Performs steps one after the other, each at its time: whether each was done, and what can be
seen then. -/
def trace (sink : Sink) (s : Scene) :
    List (Timestamp × SinkStep) → List (Except Fault Unit × Board Notification)
  | [] => []
  | (now, step) :: rest =>
    match (sink.perform now step).run s with
    | (.ok next, s') => (.ok (), next.shown s'.files) :: trace next s' rest
    | (.error fault, s') => (.error fault, sink.shown s'.files) :: trace sink s' rest

def performed (m : MemorySink) : SinkStep → MemorySink
  | .notify id n => m.notify id n
  | .cancel id => m.cancel id
  | .reopen => m

theorem trace_memory (m : MemorySink) (now : Timestamp) (step : SinkStep) (t : Scene)
    (rest : List (Timestamp × SinkStep)) :
    trace (memory m) t ((now, step) :: rest) =
      (.ok (), (performed m step).active) :: trace (memory (performed m step)) t rest := by
  cases step <;> rfl

variable {path : String} {s s' : Scene} {m : MemorySink} {j : NotificationJournal}

theorem perform_journal_ok {now : Timestamp} {step : SinkStep} {next : Sink}
    (h : ((journal j).perform now step).run s = (.ok next, s')) (hread : step.IsRead)
    (hshows : Shows j.path m.active s.files) :
    ∃ j', next = journal j' ∧ j'.path = j.path ∧ Shows j.path (performed m step).active s'.files := by
  cases step with
  | notify id n =>
    obtain ⟨j', s₁, hnotify, hreturn⟩ := Act.run_bind_ok h
    cases hreturn
    obtain ⟨s₂, happend, hfiles⟩ := run_notify_ok hnotify
    obtain ⟨source, hsource⟩ := hread
    have hsound : IsSound ⟨now, .notify, id, some n⟩ := by
      refine ⟨?_, fun _ => rfl⟩
      rintro _ ⟨⟩
      exact Notification.isReadBack_of_ofJson? hsource
    obtain ⟨hpath, hshows'⟩ := shows_append happend hshows hsound
    rw [hfiles]
    exact ⟨j', rfl, hpath, hshows'⟩
  | cancel id =>
    obtain ⟨j', s₁, hcancel, hreturn⟩ := Act.run_bind_ok h
    cases hreturn
    obtain ⟨s₂, happend, hfiles⟩ := run_cancel_ok hcancel
    have hsound : IsSound ⟨now, .cancel, id, none⟩ := by
      constructor
      · intro n hn
        cases hn
      · intro hkind
        cases hkind
    obtain ⟨hpath, hshows'⟩ := shows_append happend hshows hsound
    rw [hfiles]
    exact ⟨j', rfl, hpath, hshows'⟩
  | reopen =>
    cases h
    exact ⟨_, rfl, rfl, hshows⟩

theorem usable_perform (h : Usable j.path s) (now : Timestamp) (step : SinkStep) :
    ∃ j' s', ((journal j).perform now step).run s = (.ok (journal j'), s') ∧ Usable j'.path s' := by
  cases step with
  | notify id n =>
    obtain ⟨s', hnotify, husable⟩ := usable_notify now id n h
    refine ⟨{ j with writes := j.writes + 1 }, s', ?_, husable⟩
    rw [perform, Sink.notify, Act.run_bind_of_ok hnotify]
    rfl
  | cancel id =>
    obtain ⟨s', hcancel, husable⟩ := usable_cancel now id h
    refine ⟨{ j with writes := j.writes + 1 }, s', ?_, husable⟩
    rw [perform, Sink.cancel, Act.run_bind_of_ok hcancel]
    rfl
  | reopen => exact ⟨_, s, rfl, h⟩

theorem trace_journal {steps : List (Timestamp × SinkStep)} (hshows : Shows j.path m.active s.files)
    (hread : ∀ step ∈ steps, step.2.IsRead) (t : Scene)
    (hok : ∀ seen ∈ trace (journal j) s steps, seen.1.isOk = true) :
    trace (journal j) s steps = trace (memory m) t steps := by
  induction steps generalizing s j m with
  | nil => rfl
  | cons first steps ih =>
    obtain ⟨now, step⟩ := first
    rcases hrun : ((journal j).perform now step).run s with ⟨fault | next, s'⟩
    · -- A refusal would be seen in the trace.
      simp only [trace, hrun] at hok
      cases hok _ List.mem_cons_self
    · obtain ⟨j', rfl, hpath, hshows'⟩ :=
        perform_journal_ok hrun (hread _ List.mem_cons_self) hshows
      rw [← hpath] at hshows'
      have hboard : (journal j').shown s'.files = (performed m step).active := active_of_shows hshows'
      rw [trace_memory]
      simp only [trace, hrun] at hok ⊢
      rw [hboard, ih hshows' (fun step hstep => hread step (List.mem_cons_of_mem _ hstep))
        fun seen hseen => hok seen (List.mem_cons_of_mem _ hseen)]

theorem trace_usable (h : Usable j.path s) (steps : List (Timestamp × SinkStep)) :
    ∀ seen ∈ trace (journal j) s steps, seen.1.isOk = true := by
  induction steps generalizing s j with
  | nil => exact fun seen hseen => absurd hseen List.not_mem_nil
  | cons first steps ih =>
    obtain ⟨now, step⟩ := first
    obtain ⟨j', s', hrun, husable⟩ := usable_perform h now step
    simp only [trace, hrun]
    intro seen hseen
    rcases List.mem_cons.mp hseen with rfl | hseen
    · rfl
    · exact ih husable seen hseen

/-- Where no file is yet, a journal shows after every step what a sink in memory shows, unless the
file system refuses something; and it refuses nothing where the journal can be used. -/
theorem journal_shows_as_memory (habsent : s.files.node? (s.files.place path) = none)
    {steps : List (Timestamp × SinkStep)} (hread : ∀ step ∈ steps, step.2.IsRead) (writes : Nat)
    (t : Scene) :
    ((∀ seen ∈ trace (journal ⟨path, writes⟩) s steps, seen.1.isOk = true) →
      trace (journal ⟨path, writes⟩) s steps = trace (memory .empty) t steps) ∧
      (Usable path s → ∀ seen ∈ trace (journal ⟨path, writes⟩) s steps, seen.1.isOk = true) :=
  ⟨trace_journal (shows_of_absent habsent) hread t,
    fun h => trace_usable (j := ⟨path, writes⟩) h steps⟩

theorem journal_shows_as_memory_reopened :
    let now : Timestamp := ⟨⟨2024, 1, 2, by decide⟩, 3, 4, 5, 0, by decide⟩
    let n : Notification :=
      ⟨"icon", now, "title", "text", .viewCallLog, none, false, [], none, false, false⟩
    trace (journal ⟨"notices.jsonl", 0⟩) (.ofFiles (.blank ["home"]))
      [(now, .notify 7 n), (now, .reopen), (now, .notify (-1) n), (now, .cancel 7)] =
      [(.ok (), [(7, n)]), (.ok (), [(7, n)]), (.ok (), [(-1, n), (7, n)]), (.ok (), [(-1, n)])] := by
  intro now n
  have habsent : (Scene.ofFiles (.blank ["home"])).files.node?
      ((Scene.ofFiles (.blank ["home"])).files.place "notices.jsonl") = none := by decide
  have husable : Usable "notices.jsonl" (.ofFiles (.blank ["home"])) := by
    refine ⟨.ofFiles ((Files.blank ["home"]).put ["home", "notices.jsonl.lock"] (.file .empty)), ?_⟩
    decide
  have hn : n.IsReadBack := by
    apply Notification.isReadBack
    · apply Intent.isReadBack
      rintro h ⟨⟩
    · rintro i ⟨⟩
    · exact fun b hb => absurd hb List.not_mem_nil
  have hread : ∀ step ∈ [(now, SinkStep.notify 7 n), (now, .reopen), (now, .notify (-1) n),
      (now, .cancel 7)], step.2.IsRead := by
    intro step hstep
    simp only [List.mem_cons, List.not_mem_nil, or_false] at hstep
    rcases hstep with rfl | rfl | rfl | rfl
    · exact ⟨n.toJson, hn⟩
    · trivial
    · exact ⟨n.toJson, hn⟩
    · trivial
  have hshows := journal_shows_as_memory habsent hread 0 (.ofFiles (.blank []))
  rw [hshows.1 (hshows.2 husable)]
  decide

end Sink

end CallNotice
