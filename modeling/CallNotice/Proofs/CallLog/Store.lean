import CallNotice.CallLog.Store
import CallNotice.Proofs.CallLog.Journal
import CallNotice.Proofs.Files.Sparing

namespace CallNotice

open Act Scene Journal

namespace CallLogJournal

variable {paths : List String} {path : String}

theorem works_insert (hpath : path ∈ paths) (e : CallLogEntry) :
    Works paths LogEvent.IsDebug (fun _ => True) (insert path e) := by
  refine Works.bind (works_lock hpath) fun _ _ => ?_
  refine Works.bind (Works.onFiles fun fs fs' htouch => ?_) fun _ _ => ?_
  · exact .writes hpath (file_mem path) (Files.writes_of_touch htouch)
  refine Works.bind (Works.readFiles _) fun _ _ => ?_
  refine Works.bind (Journal.works_append hpath _) fun _ _ => ?_
  exact Works.pure trivial

theorem works_update (hpath : path ∈ paths) (filter : CallLogFilter) (values : CallLogUpdate) :
    Works paths LogEvent.IsDebug (fun _ => True) (update path filter values) := by
  refine Works.bind (Works.readFiles _) fun holds _ => ?_
  cases holds with
  | false => exact Works.pure trivial
  | true =>
    refine Works.bind (works_seize hpath) fun _ _ => ?_
    refine Works.bind (Works.readFiles _) fun found _ => ?_
    by_cases hcount : found.count filter = 0
    · simp only [hcount, if_true]
      exact Works.pure trivial
    · simp only [hcount, if_false]
      refine Works.bind (works_replace hpath _) fun _ _ => ?_
      refine Works.bind (Works.tell rfl) fun _ _ => ?_
      exact Works.pure trivial

end CallLogJournal

namespace CallLogStore

open CallLogJournal

variable {store next : CallLogStore} {rows : Rows} {s s' : Scene} {files files' : Files}

def path? : CallLogStore → Option String
  | journal path => some path
  | _ => none

def Keeps (rows : Rows) (files : Files) : CallLogStore → Prop
  | memory r => r = rows
  | journal path => Kept path rows files
  | unavailable => False

theorem Keeps.rows_eq (h : store.Keeps rows files) : store.rows files = rows := by
  cases store with
  | memory r => exact h
  | journal path => exact Journal.Keeps.values h
  | unavailable => exact h.elim

theorem Keeps.spared {ps : List String → Prop} (h : store.Keeps rows files)
    (hspares : Files.Spares ps files files') (hps : ∀ path ∈ store.path?, ps (files.place path)) :
    store.Keeps rows files' := by
  cases store with
  | memory r => exact h
  | journal path => exact Journal.Keeps.spared h hspares (hps path rfl)
  | unavailable => exact h

theorem Keeps.insert (h : store.Keeps rows s.files) {e : CallLogEntry} {id : UInt64}
    (hrun : (store.insert e).run s = (.ok (id, next), s')) :
    next.path? = store.path? ∧ next.Keeps (rows.insert e) s'.files := by
  cases store with
  | memory r =>
    cases hrun
    obtain rfl : r = rows := h
    exact ⟨rfl, rfl⟩
  | journal path =>
    obtain ⟨id, s₁, hinsert, hreturn⟩ := Act.run_bind_ok hrun
    cases hreturn
    exact ⟨rfl, (kept_insert hinsert h).2⟩
  | unavailable => exact h.elim

theorem Keeps.update (h : store.Keeps rows s.files) {filter : CallLogFilter}
    {values : CallLogUpdate} {updated : Nat}
    (hrun : (store.update filter values).run s = (.ok (updated, next), s')) :
    next.path? = store.path? ∧ next.Keeps (rows.update filter values) s'.files := by
  cases store with
  | memory r =>
    cases hrun
    obtain rfl : r = rows := h
    exact ⟨rfl, rfl⟩
  | journal path =>
    obtain ⟨updated, s₁, hupdate, hreturn⟩ := Act.run_bind_ok hrun
    cases hreturn
    exact ⟨rfl, (kept_update hupdate h).2⟩
  | unavailable => exact h.elim

variable (store : CallLogStore)

theorem works_insert (e : CallLogEntry) :
    Works store.path?.toList LogEvent.IsDebug (fun _ => True) (store.insert e) := by
  cases store with
  | memory rows => exact Works.pure trivial
  | journal path =>
    refine Works.bind (CallLogJournal.works_insert List.mem_cons_self e) fun _ _ => ?_
    exact Works.pure trivial
  | unavailable => exact Works.throw _

theorem works_update (filter : CallLogFilter) (values : CallLogUpdate) :
    Works store.path?.toList LogEvent.IsDebug (fun _ => True) (store.update filter values) := by
  cases store with
  | memory rows => exact Works.pure trivial
  | journal path =>
    refine Works.bind (CallLogJournal.works_update List.mem_cons_self filter values) fun _ _ => ?_
    exact Works.pure trivial
  | unavailable => exact Works.throw _

end CallLogStore

namespace Rows

theorem count_insert (rows : Rows) (e : CallLogEntry) (filter : CallLogFilter) :
    (rows.insert e).count filter = rows.count filter + if filter.accepts e then 1 else 0 := by
  rw [Rows.count, Rows.insert, List.countP_append, List.countP_singleton]
  rfl

theorem count_update_markRead (rows : Rows) :
    (rows.update .newMissed .markRead).count .newMissed = 0 := by
  rw [Rows.count, List.countP_eq_zero]
  intro e he
  obtain ⟨d, -, rfl⟩ := List.mem_map.mp he
  by_cases h : CallLogFilter.newMissed.accepts d = true
  · rw [if_pos h]
    simp [CallLogFilter.accepts, CallLogFilter.newMissed, CallLogUpdate.markRead, CallLogUpdate.apply]
  · rwa [if_neg h]

theorem toNat_nextId {rows : Rows} (h : rows.lastId.toNat + 1 < UInt64.size) :
    rows.nextId.toNat = rows.lastId.toNat + 1 := by
  rw [nextId, UInt64.toNat_add]
  exact Nat.mod_eq_of_lt h

end Rows

end CallNotice
