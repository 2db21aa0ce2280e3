import CallNotice.Proofs.CallLog.Refinement
import CallNotice.Proofs.CallLog.Store

namespace CallNotice

open CallLogStore

def CallLogEntry.unmarked (e : CallLogEntry) : CallLogEntry := { e with isNew := false, isRead := false }

/-- Just one row has the id, and it is the entry up to its marks. -/
def CarriedOnce (id : UInt64) (e : CallLogEntry) (rows : Rows) : Prop :=
  ∃ row, rows.filter (·.id = id) = [row] ∧ row.unmarked = { e with id := id }.unmarked

def CallLogRequest.isInsert : CallLogRequest → Bool
  | .insert _ => true
  | _ => false

namespace Rows

variable {rows : Rows} {e : CallLogEntry}

theorem toNat_lastId_concat (rows : Rows) (e : CallLogEntry) :
    (Rows.lastId (rows ++ [e])).toNat = max rows.lastId.toNat e.id.toNat := by
  rw [lastId, List.foldl_concat, UInt64.toNat_max, lastId]

theorem toNat_id_le (h : e ∈ rows) : e.id.toNat ≤ rows.lastId.toNat := by
  induction rows using List.reverseRecOn with
  | nil => cases h
  | append_singleton rows last ih =>
    rw [toNat_lastId_concat]
    rcases List.mem_append.mp h with h | h
    · have hle := ih h
      omega
    · rw [List.mem_singleton.mp h]
      omega

theorem map_update_of_apply {β : Type} {f : CallLogEntry → β}
    (hf : ∀ (values : CallLogUpdate) (e : CallLogEntry), f (values.apply e) = f e) (rows : Rows)
    (filter : CallLogFilter) (values : CallLogUpdate) :
    (rows.update filter values).map f = rows.map f := by
  rw [update, List.map_map]
  apply List.map_congr_left
  intro e _
  rw [Function.comp_apply, apply_ite f, hf, ite_self]

theorem map_unmarked_update (rows : Rows) (filter : CallLogFilter) (values : CallLogUpdate) :
    (rows.update filter values).map CallLogEntry.unmarked = rows.map CallLogEntry.unmarked :=
  map_update_of_apply (fun _ _ => rfl) rows filter values

theorem id_lt_nextId (h : rows.lastId.toNat + 1 < UInt64.size) : ∀ row ∈ rows, row.id < rows.nextId := by
  intro row hrow
  rw [UInt64.lt_iff_toNat_lt, toNat_nextId h]
  have hle := toNat_id_le hrow
  omega

end Rows

namespace CarriedOnce

variable {rows rows' : Rows} {e : CallLogEntry} {id : UInt64}

theorem iff_unmarked : CarriedOnce id e rows ↔
    (rows.map CallLogEntry.unmarked).filter (·.id = id) = [{ e with id := id }.unmarked] := by
  have hid : (fun row : CallLogEntry => decide (row.id = id)) ∘ CallLogEntry.unmarked =
      fun row => decide (row.id = id) := rfl
  rw [List.filter_map, hid, List.map_eq_singleton_iff]
  rfl

theorem toNat_le (h : CarriedOnce id e rows) : id.toNat ≤ rows.lastId.toNat := by
  obtain ⟨row, hrow, -⟩ := h
  have hmem : row ∈ rows.filter (·.id = id) := by
    rw [hrow]
    exact List.mem_singleton_self row
  obtain ⟨hmem, hid⟩ := List.mem_filter.mp hmem
  rw [← of_decide_eq_true hid]
  exact Rows.toNat_id_le hmem

theorem answerOf {request : CallLogRequest} (h : CarriedOnce id e rows)
    (hroom : rows.lastId.toNat + request.isInsert.toNat < UInt64.size) :
    CarriedOnce id e (answerOf rows request).2 := by
  cases request with
  | insert new =>
    have hne : rows.nextId ≠ id := by
      intro heq
      have hle := h.toNat_le
      have hnext := Rows.toNat_nextId hroom
      rw [heq] at hnext
      omega
    obtain ⟨row, hrow, hsame⟩ := h
    refine ⟨row, ?_, hsame⟩
    rw [CallLogStore.answerOf, Rows.insert, List.filter_append, hrow]
    simp [hne]
  | update filter values =>
    rw [CallLogStore.answerOf, iff_unmarked, Rows.map_unmarked_update, ← iff_unmarked]
    exact h
  | query filter => exact h

theorem insert (e : CallLogEntry) (hroom : rows.lastId.toNat + 1 < UInt64.size) :
    CarriedOnce rows.nextId e (rows.insert e) := by
  have hnone : rows.filter (·.id = rows.nextId) = [] := by
    rw [List.filter_eq_nil_iff]
    intro row hrow hid
    have hlt := Rows.id_lt_nextId hroom row hrow
    rw [of_decide_eq_true hid] at hlt
    exact UInt64.lt_irrefl _ hlt
  refine ⟨{ e with id := rows.nextId }, ?_, rfl⟩
  rw [Rows.insert, List.filter_append, hnone]
  simp

end CarriedOnce

namespace Turn

variable {t : Turn} {ts : List Turn} {rows : Rows} {e : CallLogEntry} {id : UInt64}

namespace IsLawful

end IsLawful

namespace Follow

end Follow

end Turn

end CallNotice
