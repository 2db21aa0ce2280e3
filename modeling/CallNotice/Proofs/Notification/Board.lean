import CallNotice.Notification.Board

namespace CallNotice.Board

variable {α β : Type} {board : Board α} {i : Int32} {a : α}

def IsSorted (board : Board α) : Prop := board.Pairwise fun d e => d.1 < e.1

theorem eq_or_mem_of_mem_insert {e : Int32 × α} (h : e ∈ board.insert i a) :
    e = (i, a) ∨ e ∈ board := by
  induction board with
  | nil => exact .inl (List.mem_singleton.mp h)
  | cons d rest ih =>
    obtain ⟨j, b⟩ := d
    unfold insert at h
    split at h
    · exact List.mem_cons.mp h
    · split at h
      · rcases List.mem_cons.mp h with rfl | h
        · exact .inl rfl
        · exact .inr (List.mem_cons_of_mem _ h)
      · rcases List.mem_cons.mp h with rfl | h
        · exact .inr List.mem_cons_self
        · rcases ih h with rfl | h
          · exact .inl rfl
          · exact .inr (List.mem_cons_of_mem _ h)

theorem isSorted_insert (h : board.IsSorted) : (board.insert i a).IsSorted := by
  induction board with
  | nil => exact List.pairwise_singleton _ _
  | cons d rest ih =>
    obtain ⟨j, b⟩ := d
    obtain ⟨hj, hrest⟩ := List.pairwise_cons.mp h
    unfold insert
    split
    · rename_i hlt
      refine List.pairwise_cons.mpr ⟨?_, h⟩
      intro e he
      rcases List.mem_cons.mp he with rfl | he
      · exact hlt
      · exact Int32.lt_trans hlt (hj e he)
    · rename_i hle
      split
      · rename_i heq
        subst heq
        exact List.pairwise_cons.mpr ⟨hj, hrest⟩
      · rename_i hne
        refine List.pairwise_cons.mpr ⟨?_, ih hrest⟩
        intro e he
        rcases eq_or_mem_of_mem_insert he with rfl | he
        · exact Int32.lt_of_le_of_ne (Int32.not_lt.mp hle) (Ne.symm hne)
        · exact hj e he

theorem isSorted_erase (h : board.IsSorted) : (board.erase i).IsSorted := List.Pairwise.filter _ h

theorem insert_eq_concat (h : ∀ e ∈ board, e.1 < i) : board.insert i a = board ++ [(i, a)] := by
  induction board with
  | nil => rfl
  | cons d rest ih =>
    obtain ⟨j, b⟩ := d
    have hj : j < i := h (j, b) List.mem_cons_self
    have hle : ¬i < j := fun hlt => Int32.lt_irrefl (Int32.lt_trans hj hlt)
    have hne : ¬i = j := fun heq => Int32.lt_irrefl (heq ▸ hj)
    rw [insert, if_neg hle, if_neg hne, ih fun e he => h e (List.mem_cons_of_mem _ he)]
    rfl

theorem get?_eq_none_of_lt (h : ∀ e ∈ board, i < e.1) : board.get? i = none := by
  induction board with
  | nil => rfl
  | cons d rest ih =>
    obtain ⟨j, b⟩ := d
    have hij : i < j := h (j, b) List.mem_cons_self
    rw [get?_cons, if_neg (fun heq => Int32.lt_irrefl (heq ▸ hij))]
    exact ih fun e he => h e (List.mem_cons_of_mem _ he)

theorem erase_of_get?_eq_none (h : board.get? i = none) : board.erase i = board := by
  rw [erase, List.filter_eq_self]
  intro e he
  rw [get?, List.lookup_eq_none_iff] at h
  exact decide_eq_true (bne_iff_ne.mp (h e he)).symm

theorem not_lt_of_get?_cons {j : Int32} {b : α} (h : IsSorted ((j, b) :: board))
    (hget : get? i ((j, b) :: board) = some a) : ¬i < j := by
  intro hlt
  have hnone : get? i ((j, b) :: board) = none := by
    apply get?_eq_none_of_lt
    intro e he
    rcases List.mem_cons.mp he with rfl | he
    · exact hlt
    · exact Int32.lt_trans hlt ((List.pairwise_cons.mp h).1 e he)
  rw [hnone] at hget
  cases hget

theorem eq_of_get?_eq {board' : Board α} (h : board.IsSorted) (h' : board'.IsSorted)
    (hget : ∀ i, board.get? i = board'.get? i) : board = board' := by
  induction board generalizing board' with
  | nil =>
    cases board' with
    | nil => rfl
    | cons e rest' =>
      have hfirst := hget e.1
      rw [get?_cons, if_pos rfl] at hfirst
      cases hfirst
  | cons d rest ih =>
    obtain ⟨i, a⟩ := d
    have hgeti : some a = board'.get? i := by
      rw [← hget i, get?_cons, if_pos rfl]
    cases board' with
    | nil => cases hgeti
    | cons e rest' =>
      obtain ⟨j, b⟩ := e
      have hgetj : get? j ((i, a) :: rest) = some b := by
        rw [hget j, get?_cons, if_pos rfl]
      have hij := not_lt_of_get?_cons h' hgeti.symm
      have hji := not_lt_of_get?_cons h hgetj
      obtain rfl : i = j := Int32.le_antisymm (Int32.not_lt.mp hji) (Int32.not_lt.mp hij)
      rw [get?_cons, if_pos rfl] at hgetj
      cases hgetj
      obtain ⟨hi, hrest⟩ := List.pairwise_cons.mp h
      obtain ⟨hj, hrest'⟩ := List.pairwise_cons.mp h'
      congr 1
      apply ih hrest hrest'
      intro k
      by_cases hk : k = i
      · rw [hk, get?_eq_none_of_lt hi, get?_eq_none_of_lt hj]
      · have hgetk := hget k
        rwa [get?_cons, if_neg hk, get?_cons, if_neg hk] at hgetk

theorem get?_filter (p : Int32 → Bool) (i : Int32) (board : Board α) :
    get? i (board.filter fun e => p e.1) = if p i then board.get? i else none := by
  induction board with
  | nil => simp [get?]
  | cons d rest ih =>
    obtain ⟨j, b⟩ := d
    by_cases hij : i = j
    · subst hij
      by_cases hp : p i = true
      · simp only [List.filter_cons, hp, get?_cons, if_true]
      · simp only [List.filter_cons, hp, ih, Bool.false_eq_true, if_false]
    · by_cases hp : p j = true
      · simp only [List.filter_cons, hp, get?_cons, hij, ih, if_true, if_false]
      · simp only [List.filter_cons, hp, get?_cons, hij, ih, Bool.false_eq_true, if_false]

def pick (f : α → Option β) (board : Board α) : Board β :=
  board.filterMap fun e => (f e.2).map (Prod.mk e.1)

theorem get?_pick (f : α → Option β) (h : board.IsSorted) (i : Int32) :
    (board.pick f).get? i = (board.get? i).bind f := by
  induction board with
  | nil => rfl
  | cons d rest ih =>
    obtain ⟨j, b⟩ := d
    obtain ⟨hj, hrest⟩ := List.pairwise_cons.mp h
    have hrest' : get? i (rest.filterMap fun e => (f e.2).map (Prod.mk e.1)) =
        (get? i rest).bind f := ih hrest
    rw [get?_cons, pick, List.filterMap_cons]
    by_cases hij : i = j
    · rw [if_pos hij, Option.bind_some]
      cases f b with
      | some c => exact (get?_cons j i c _).trans (if_pos hij)
      | none =>
        -- Below `j` nothing is under the same id.
        have hnone : get? i rest = none := get?_eq_none_of_lt (hij ▸ hj)
        rw [hnone] at hrest'
        exact hrest'
    · rw [if_neg hij, ← hrest']
      cases f b with
      | some c => exact (get?_cons j i c _).trans (if_neg hij)
      | none => rfl

end CallNotice.Board
