import CallNotice.Text.Lines

namespace CallNotice.Text

variable {α : Type} [DecidableEq α]

theorem splitAtMarks_eq_concat (mark : α) (xs : List α) :
    splitAtMarks mark xs = (splitAtMarks mark xs).dropLast ++ [tornLine mark xs] := by
  obtain ⟨pieces, piece, h⟩ :=
    (List.eq_nil_or_concat (splitAtMarks mark xs)).resolve_left (splitAtMarks_ne_nil mark xs)
  rw [List.concat_eq_append] at h
  simp [tornLine, h]

theorem splitAtMarks_of_not_mem {mark : α} {xs : List α} (h : mark ∉ xs) :
    splitAtMarks mark xs = [xs] := by
  induction xs with
  | nil => rfl
  | cons x xs ih =>
    simp only [List.mem_cons, not_or] at h
    rw [splitAtMarks_cons, ih h.2, splitStep, if_neg (Ne.symm h.1)]

theorem splitAtMarks_append_piece (mark : α) (xs ys : List α) (h : mark ∉ ys) :
    splitAtMarks mark (xs ++ ys) = (splitAtMarks mark xs).dropLast ++ [tornLine mark xs ++ ys] := by
  induction xs with
  | nil => exact splitAtMarks_of_not_mem h
  | cons x xs ih =>
    obtain ⟨pieces, last, hxs⟩ : ∃ pieces last, splitAtMarks mark xs = pieces ++ [last] :=
      ⟨_, _, splitAtMarks_eq_concat mark xs⟩
    have hlast : tornLine mark xs = last := by simp [tornLine, hxs]
    have hcons : splitAtMarks mark (x :: xs) = splitStep mark x (pieces ++ [last]) := by
      rw [splitAtMarks_cons, hxs]
    rw [List.cons_append, splitAtMarks_cons, ih, hxs, List.dropLast_concat, hlast, tornLine, hcons]
    cases pieces with
    | nil => by_cases hx : x = mark <;> simp [splitStep, hx]
    | cons piece pieces =>
      rw [splitStep_append _ _ _ _ (List.cons_ne_nil piece pieces),
        splitStep_append _ _ _ _ (List.cons_ne_nil piece pieces)]
      simp

theorem not_mem_of_mem_splitAtMarks (mark : α) (xs : List α) :
    ∀ piece ∈ splitAtMarks mark xs, mark ∉ piece := by
  induction xs with
  | nil => simp [splitAtMarks]
  | cons x xs ih =>
    obtain ⟨first, rest, hps⟩ := List.exists_cons_of_ne_nil (splitAtMarks_ne_nil mark xs)
    rw [hps] at ih
    rw [splitAtMarks_cons, hps]
    intro piece hpiece
    by_cases hx : x = mark
    · simp only [splitStep, if_pos hx] at hpiece
      rcases List.mem_cons.mp hpiece with rfl | h
      · exact List.not_mem_nil
      · exact ih piece h
    · simp only [splitStep, if_neg hx] at hpiece
      rcases List.mem_cons.mp hpiece with rfl | h
      · rw [List.mem_cons, not_or]
        exact ⟨Ne.symm hx, ih first List.mem_cons_self⟩
      · exact ih piece (List.mem_cons_of_mem first h)

theorem not_mem_tornLine (mark : α) (xs : List α) : mark ∉ tornLine mark xs := by
  apply not_mem_of_mem_splitAtMarks mark xs
  rw [splitAtMarks_eq_concat]
  simp

theorem tornLine_append_mark (mark : α) (xs : List α) : tornLine mark (xs ++ [mark]) = [] := by
  rw [tornLine, splitAtMarks_append]
  simp [splitAtMarks]

theorem endedLines_append_line (feed ret : α) (xs ys : List α) (h : feed ∉ ys) :
    endedLines feed ret (xs ++ ys ++ [feed]) =
      endedLines feed ret xs ++ [withoutLast ret (tornLine feed xs ++ ys)] := by
  have hnil : splitAtMarks feed ([] : List α) = [[]] := rfl
  rw [endedLines, splitAtMarks_append, hnil, List.dropLast_concat,
    splitAtMarks_append_piece feed xs ys h, List.map_append]
  rfl

theorem linesBy_append_line (feed ret : α) (xs ys : List α) (h : feed ∉ ys) :
    linesBy feed ret (xs ++ ys ++ [feed]) =
      endedLines feed ret xs ++ [withoutLast ret (tornLine feed xs ++ ys)] := by
  rw [linesBy, tornLine_append_mark, if_pos rfl, List.append_nil, endedLines_append_line feed ret xs ys h]

end CallNotice.Text
