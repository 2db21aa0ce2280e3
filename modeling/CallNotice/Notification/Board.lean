namespace CallNotice

/-- Entries by ascending id. -/
abbrev Board (α : Type) := List (Int32 × α)

namespace Board

variable {α : Type}

def empty : Board α := []

def insert (id : Int32) (a : α) : Board α → Board α
  | [] => [(id, a)]
  | (i, b) :: rest =>
    if id < i then (id, a) :: (i, b) :: rest
    else if id = i then (id, a) :: rest
    else (i, b) :: insert id a rest

def erase (id : Int32) (board : Board α) : Board α := board.filter fun e => e.1 ≠ id

def get? (id : Int32) (board : Board α) : Option α := board.lookup id

theorem get?_cons (i j : Int32) (a : α) (board : Board α) :
    get? j ((i, a) :: board) = if j = i then some a else board.get? j := by
  by_cases h : j = i
  · simp [get?, h]
  · simp [get?, List.lookup_cons, beq_false_of_ne h, h]

theorem get?_insert (i j : Int32) (a : α) (board : Board α) :
    (board.insert i a).get? j = if j = i then some a else board.get? j := by
  fun_induction insert i a board <;> grind [get?_cons]

theorem get?_erase (i j : Int32) (board : Board α) :
    (board.erase i).get? j = if j = i then none else board.get? j := by
  induction board with
  | nil => simp [erase, get?]
  | cons e rest ih =>
    obtain ⟨k, b⟩ := e
    simp only [erase, List.filter_cons] at ih ⊢
    grind [get?_cons]

end Board

end CallNotice
