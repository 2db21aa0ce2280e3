import CallNotice.CallLog.Store
import CallNotice.Proofs.CallLog.Journal
import Mathlib.Logic.Function.Basic

namespace CallNotice

inductive CallLogRequest
  | insert (entry : CallLogEntry)
  | update (filter : CallLogFilter) (values : CallLogUpdate)
  | query (filter : CallLogFilter)

inductive CallLogAnswer
  | inserted (id : UInt64)
  | updated (rows : Nat)
  | rows (rows : Rows)
  deriving DecidableEq

namespace CallLogStore

open Journal CallLogJournal

def serve (store : CallLogStore) : CallLogRequest → Act (CallLogAnswer × CallLogStore)
  | .insert entry => return (← store.insert entry).map CallLogAnswer.inserted id
  | .update filter values => return (← store.update filter values).map CallLogAnswer.updated id
  | .query filter => return (.rows (← store.query filter), store)

/-- Serves requests one after the other, each by the store it is sent to: what each request was
answered, and the rows that every store shows then. -/
def trace {ι : Type} [DecidableEq ι] (stores : ι → CallLogStore) (s : Scene) :
    List (ι × CallLogRequest) → List (Except Fault CallLogAnswer × (ι → Rows))
  | [] => []
  | (i, request) :: rest =>
    match ((stores i).serve request).run s with
    | (.ok (answer, next), s') =>
      let stores' := Function.update stores i next
      (.ok answer, fun j => (stores' j).rows s'.files) :: trace stores' s' rest
    | (.error fault, s') =>
      (.error fault, fun j => (stores j).rows s'.files) :: trace stores s' rest

def answerOf (rows : Rows) : CallLogRequest → CallLogAnswer × Rows
  | .insert entry => (.inserted rows.nextId, rows.insert entry)
  | .update filter values => (.updated (rows.count filter), rows.update filter values)
  | .query filter => (.rows (rows.query filter), rows)

theorem run_serve_memory (rows : Rows) (request : CallLogRequest) (s : Scene) :
    ((memory rows).serve request).run s =
      (.ok ((answerOf rows request).1, memory (answerOf rows request).2), s) := by
  cases request <;> rfl

variable {path : String} {s s' : Scene} {rows : Rows}

theorem serve_journal_ok {request : CallLogRequest} {answer : CallLogAnswer} {next : CallLogStore}
    (h : ((journal path).serve request).run s = (.ok (answer, next), s'))
    (hkept : Kept path rows s.files) :
    next = journal path ∧ answer = (answerOf rows request).1 ∧
      Kept path (answerOf rows request).2 s'.files := by
  cases request with
  | insert entry =>
    obtain ⟨⟨id, store⟩, s₁, hstore, hreturn⟩ := Act.run_bind_ok h
    cases hreturn
    obtain ⟨id, s₂, hinsert, hreturn⟩ := Act.run_bind_ok hstore
    cases hreturn
    obtain ⟨rfl, hkept'⟩ := kept_insert hinsert hkept
    exact ⟨rfl, rfl, hkept'⟩
  | update filter values =>
    obtain ⟨⟨updated, store⟩, s₁, hstore, hreturn⟩ := Act.run_bind_ok h
    cases hreturn
    obtain ⟨updated, s₂, hupdate, hreturn⟩ := Act.run_bind_ok hstore
    cases hreturn
    obtain ⟨rfl, hkept'⟩ := kept_update hupdate hkept
    exact ⟨rfl, rfl, hkept'⟩
  | query filter =>
    cases h
    refine ⟨rfl, ?_, hkept⟩
    have hrows : CallLogJournal.rows path s.files = rows := hkept.values
    rw [hrows]
    rfl

theorem usable_serve (h : Usable path s) (request : CallLogRequest) :
    ∃ answer s', ((journal path).serve request).run s = (.ok (answer, journal path), s') ∧
      Usable path s' := by
  cases request with
  | insert entry =>
    obtain ⟨id, s', hinsert, husable⟩ := usable_insert h entry
    have hstore : ((journal path).insert entry).run s = (.ok (id, journal path), s') :=
      Act.run_bind_of_ok hinsert
    refine ⟨.inserted id, s', ?_, husable⟩
    rw [serve, Act.run_bind_of_ok hstore]
    rfl
  | update filter values =>
    obtain ⟨updated, s', hupdate, husable⟩ := usable_update h filter values
    have hstore : ((journal path).update filter values).run s = (.ok (updated, journal path), s') :=
      Act.run_bind_of_ok hupdate
    refine ⟨.updated updated, s', ?_, husable⟩
    rw [serve, Act.run_bind_of_ok hstore]
    rfl
  | query filter => exact ⟨_, s, rfl, h⟩

theorem trace_memory (rows : Rows) (request : CallLogRequest) (t : Scene)
    (rest : List (Unit × CallLogRequest)) :
    trace (fun _ => memory rows) t (((), request) :: rest) =
      (.ok (answerOf rows request).1, fun _ => (answerOf rows request).2) ::
        trace (fun _ => memory (answerOf rows request).2) t rest := by
  have hstores : Function.update (fun _ : Unit => memory rows) ()
      (memory (answerOf rows request).2) = fun _ => memory (answerOf rows request).2 := by
    funext j
    exact Function.update_self () _ _
  simp only [trace, run_serve_memory, hstores]
  rfl

variable {ι : Type} [DecidableEq ι]

theorem trace_journal {requests : List (ι × CallLogRequest)} (hkept : Kept path rows s.files)
    (t : Scene)
    (hok : ∀ seen ∈ trace (fun _ : ι => journal path) s requests, seen.1.isOk = true) :
    trace (fun _ : ι => journal path) s requests =
      (trace (fun _ : Unit => memory rows) t (requests.map fun r => ((), r.2))).map
        fun seen => (seen.1, fun _ => seen.2 ()) := by
  induction requests generalizing s rows with
  | nil => rfl
  | cons r requests ih =>
    obtain ⟨i, request⟩ := r
    rcases hrun : ((journal path).serve request).run s with ⟨fault | ⟨answer, next⟩, s'⟩
    · simp only [trace, hrun] at hok
      cases hok _ List.mem_cons_self
    · -- A store of a journal has no state of its own, so the stores remain what they were.
      obtain ⟨rfl, rfl, hkept'⟩ := serve_journal_ok hrun hkept
      have hstores : Function.update (fun _ : ι => journal path) i (journal path) =
          fun _ => journal path := Function.update_eq_self i _
      have hrows : (fun _ : ι => (journal path).rows s'.files) =
          fun _ => (answerOf rows request).2 := funext fun _ => hkept'.values
      simp only [trace, hrun, hstores] at hok ⊢
      rw [List.map_cons, trace_memory, List.map_cons, hrows,
        ih hkept' fun seen hseen => hok seen (List.mem_cons_of_mem _ hseen)]

theorem trace_usable (h : Usable path s) (requests : List (ι × CallLogRequest)) :
    ∀ seen ∈ trace (fun _ : ι => journal path) s requests, seen.1.isOk = true := by
  induction requests generalizing s with
  | nil => exact fun seen hseen => absurd hseen List.not_mem_nil
  | cons r requests ih =>
    obtain ⟨i, request⟩ := r
    obtain ⟨answer, s', hrun, husable⟩ := usable_serve h request
    have hstores : Function.update (fun _ : ι => journal path) i (journal path) =
        fun _ => journal path := Function.update_eq_self i _
    simp only [trace, hrun, hstores]
    intro seen hseen
    rcases List.mem_cons.mp hseen with rfl | hseen
    · rfl
    · exact ih husable seen hseen

/-- Where no file is yet, stores in one journal answer as one store in memory does and show its
rows after every request, unless the file system refuses something; and it refuses nothing where
the journal can be used. -/
theorem journals_answer_as_memory (habsent : s.files.node? (s.files.place path) = none) (t : Scene)
    (requests : List (ι × CallLogRequest)) :
    ((∀ seen ∈ trace (fun _ : ι => journal path) s requests, seen.1.isOk = true) →
      trace (fun _ : ι => journal path) s requests =
        (trace (fun _ : Unit => memory []) t (requests.map fun r => ((), r.2))).map
          fun seen => (seen.1, fun _ => seen.2 ())) ∧
      (Usable path s →
        ∀ seen ∈ trace (fun _ : ι => journal path) s requests, seen.1.isOk = true) :=
  ⟨trace_journal (keeps_of_absent habsent) t, fun h => trace_usable h requests⟩

theorem journals_answer_as_memory_two_stores :
    let missed := CallLogEntry.missed "555" none ⟨⟨2024, 1, 2, by decide⟩, 3, 4, 5, 0, by decide⟩
    (trace (fun _ : Bool => journal "calls.jsonl") (.ofFiles (.blank ["home"]))
      [(true, .insert missed), (false, .update .newMissed .markRead), (true, .insert missed)]).map
        Prod.fst = [.ok (.inserted 1), .ok (.updated 1), .ok (.inserted 2)] := by
  intro missed
  have habsent : (Scene.ofFiles (.blank ["home"])).files.node?
      ((Scene.ofFiles (.blank ["home"])).files.place "calls.jsonl") = none := by decide
  have husable : Usable "calls.jsonl" (.ofFiles (.blank ["home"])) := by
    refine ⟨.ofFiles ((Files.blank ["home"]).put ["home", "calls.jsonl.lock"] (.file .empty)), ?_⟩
    decide
  have hrefines := journals_answer_as_memory habsent (.ofFiles (.blank []))
    [(true, .insert missed), (false, .update .newMissed .markRead), (true, .insert missed)]
  rw [hrefines.1 (hrefines.2 husable)]
  decide

end CallLogStore

end CallNotice
