namespace CallNotice.Text

variable {α : Type} [DecidableEq α]

def splitStep (mark x : α) (pieces : List (List α)) : List (List α) :=
  if x = mark then [] :: pieces
  else match pieces with
    | [] => [[x]]
    | piece :: rest => (x :: piece) :: rest

def splitAtMarks (mark : α) (xs : List α) : List (List α) := xs.foldr (splitStep mark) [[]]

theorem splitAtMarks_cons (mark x : α) (xs : List α) :
    splitAtMarks mark (x :: xs) = splitStep mark x (splitAtMarks mark xs) := rfl

theorem splitStep_ne_nil (mark x : α) (pieces : List (List α)) : splitStep mark x pieces ≠ [] := by
  cases pieces <;> by_cases hx : x = mark <;> simp [splitStep, hx]

theorem splitAtMarks_ne_nil (mark : α) (xs : List α) : splitAtMarks mark xs ≠ [] := by
  cases xs with
  | nil => simp [splitAtMarks]
  | cons x xs => exact splitStep_ne_nil mark x _

theorem splitStep_append (mark x : α) (pieces others : List (List α)) (h : pieces ≠ []) :
    splitStep mark x (pieces ++ others) = splitStep mark x pieces ++ others := by
  cases pieces with
  | nil => exact absurd rfl h
  | cons piece rest => by_cases hx : x = mark <;> simp [splitStep, hx]

theorem splitAtMarks_append (mark : α) (xs ys : List α) :
    splitAtMarks mark (xs ++ mark :: ys) = splitAtMarks mark xs ++ splitAtMarks mark ys := by
  induction xs with
  | nil => simp [splitAtMarks, splitStep]
  | cons x xs ih =>
    rw [List.cons_append, splitAtMarks_cons, ih,
      splitStep_append _ _ _ _ (splitAtMarks_ne_nil mark xs), splitAtMarks_cons]

def withoutLast (x : α) (xs : List α) : List α := if xs.getLast? = some x then xs.dropLast else xs

def endedLines (feed ret : α) (xs : List α) : List (List α) :=
  (splitAtMarks feed xs).dropLast.map (withoutLast ret)

def tornLine (feed : α) (xs : List α) : List α := (splitAtMarks feed xs).getLast?.getD []

def linesBy (feed ret : α) (xs : List α) : List (List α) :=
  endedLines feed ret xs ++ if tornLine feed xs = [] then [] else [tornLine feed xs]

def lines (s : String) : List (List Char) := linesBy '\n' '\r' s.toList

def readableLines (content : ByteArray) : List String :=
  (linesBy 10 13 content.data.toList).filterMap fun line => String.fromUTF8? ⟨line.toArray⟩

end CallNotice.Text
