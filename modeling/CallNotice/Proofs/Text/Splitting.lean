import CallNotice.Proofs.Text.Lines

namespace CallNotice.Text

variable {α : Type}

/-- A line ends at a feed, and a return right before the feed is not part of it. What stands behind
the last feed is a line too, unless it is empty. -/
inductive IsLines (feed ret : α) : List α → List (List α) → Prop
  | nil : IsLines feed ret [] []
  | torn {xs : List α} (hne : xs ≠ []) (h : feed ∉ xs) : IsLines feed ret xs [xs]
  | feed {line rest : List α} {ls : List (List α)} (h : feed ∉ line) (hret : line.getLast? ≠ some ret)
      (hrest : IsLines feed ret rest ls) : IsLines feed ret (line ++ feed :: rest) (line :: ls)
  | retFeed {line rest : List α} {ls : List (List α)} (h : feed ∉ line)
      (hrest : IsLines feed ret rest ls) :
      IsLines feed ret (line ++ ret :: feed :: rest) (line :: ls)

variable [DecidableEq α] {feed ret : α} {xs ys line rest : List α} {ls : List (List α)}

theorem tornLine_append (feed : α) (xs ys : List α) :
    tornLine feed (xs ++ feed :: ys) = tornLine feed ys := by
  obtain ⟨pieces, last, hys⟩ : ∃ pieces last, splitAtMarks feed ys = pieces ++ [last] :=
    ⟨_, _, splitAtMarks_eq_concat feed ys⟩
  rw [tornLine, tornLine, splitAtMarks_append, hys, ← List.append_assoc, List.getLast?_concat,
    List.getLast?_concat]

theorem tornLine_eq_nil_iff : tornLine feed xs = [] ↔ ∀ x ∈ xs.getLast?, x = feed := by
  rcases List.eq_nil_or_concat xs with rfl | ⟨xs, x, rfl⟩
  · simp [tornLine, splitAtMarks]
  · rw [List.concat_eq_append, List.getLast?_concat]
    by_cases hx : x = feed
    · simp [hx, tornLine_append_mark]
    · have hpiece : feed ∉ [x] := by simpa using Ne.symm hx
      rw [tornLine, splitAtMarks_append_piece feed xs [x] hpiece]
      simp [hx]

theorem endedLines_append (feed ret : α) (xs ys : List α) :
    endedLines feed ret (xs ++ feed :: ys) =
      endedLines feed ret (xs ++ [feed]) ++ endedLines feed ret ys := by
  have hnil : splitAtMarks feed ([] : List α) = [[]] := rfl
  rw [endedLines, endedLines, endedLines, splitAtMarks_append, splitAtMarks_append, hnil,
    List.dropLast_concat, List.dropLast_append_of_ne_nil (splitAtMarks_ne_nil feed ys),
    List.map_append]

theorem linesBy_append_feed (feed ret : α) (xs ys : List α) :
    linesBy feed ret (xs ++ feed :: ys) =
      linesBy feed ret (xs ++ [feed]) ++ linesBy feed ret ys := by
  rw [linesBy, linesBy, linesBy, endedLines_append, tornLine_append, tornLine_append_mark, if_pos rfl,
    List.append_nil, List.append_assoc]

theorem linesBy_append (h : ∀ x ∈ xs.getLast?, x = feed) (ret : α) (ys : List α) :
    linesBy feed ret (xs ++ ys) = linesBy feed ret xs ++ linesBy feed ret ys := by
  rcases List.eq_nil_or_concat xs with rfl | ⟨xs, x, rfl⟩
  · rfl
  · rw [List.concat_eq_append] at h ⊢
    obtain rfl : x = feed := h x (by simp)
    rw [← List.append_cons, linesBy_append_feed]

theorem length_splitAtMarks (mark : α) (xs : List α) :
    (splitAtMarks mark xs).length = xs.count mark + 1 := by
  induction xs with
  | nil => rfl
  | cons x xs ih =>
    obtain ⟨piece, pieces, hpieces⟩ := List.exists_cons_of_ne_nil (splitAtMarks_ne_nil mark xs)
    rw [hpieces] at ih
    rw [splitAtMarks_cons, hpieces, List.count_cons]
    by_cases hx : x = mark <;> simp_all [splitStep]

theorem length_linesBy (h : ∀ x ∈ xs.getLast?, x = feed) (ret : α) :
    (linesBy feed ret xs).length = xs.count feed := by
  rw [linesBy, if_pos (tornLine_eq_nil_iff.mpr h), List.append_nil, endedLines, List.length_map,
    List.length_dropLast, length_splitAtMarks, Nat.add_sub_cancel]

theorem linesBy_cons (h : feed ∉ line) (ret : α) (rest : List α) :
    linesBy feed ret (line ++ feed :: rest) = withoutLast ret line :: linesBy feed ret rest := by
  have hline := linesBy_append_line feed ret [] line h
  have hended : endedLines feed ret ([] : List α) = [] := rfl
  have htorn : tornLine feed ([] : List α) = [] := rfl
  rw [hended, htorn, List.nil_append, List.nil_append] at hline
  rw [linesBy_append_feed, hline, List.singleton_append]

theorem linesBy_of_not_mem (h : feed ∉ xs) (hne : xs ≠ []) (ret : α) : linesBy feed ret xs = [xs] := by
  have htorn : tornLine feed xs = xs := by
    rw [tornLine, splitAtMarks_of_not_mem h]
    rfl
  rw [linesBy, endedLines, splitAtMarks_of_not_mem h, htorn, if_neg hne]
  rfl

theorem withoutLast_of_ne (h : line.getLast? ≠ some ret) : withoutLast ret line = line := if_neg h

theorem withoutLast_concat (ret : α) (line : List α) : withoutLast ret (line ++ [ret]) = line := by
  rw [withoutLast, List.getLast?_concat, if_pos rfl, List.dropLast_concat]

theorem IsLines.linesBy_eq (h : IsLines feed ret xs ls) (hne : ret ≠ feed) :
    linesBy feed ret xs = ls := by
  induction h with
  | nil => rfl
  | torn hxs h => exact linesBy_of_not_mem h hxs ret
  | feed h hret _ ih => rw [linesBy_cons h, withoutLast_of_ne hret, ih]
  | @retFeed line rest ls h _ ih =>
    have hline : feed ∉ line ++ [ret] := by simp [h, hne.symm]
    rw [List.append_cons, linesBy_cons hline, withoutLast_concat, ih]

theorem isLines_linesBy (feed ret : α) (xs : List α) : IsLines feed ret xs (linesBy feed ret xs) := by
  by_cases hfeed : feed ∈ xs
  · obtain ⟨line, rest, hxs, h⟩ := List.eq_append_cons_of_mem hfeed
    have hrest : IsLines feed ret rest (linesBy feed ret rest) := isLines_linesBy feed ret rest
    rw [hxs, linesBy_cons h]
    by_cases hret : line.getLast? = some ret
    · obtain ⟨body, rfl⟩ := List.getLast?_eq_some_iff.mp hret
      rw [withoutLast_concat, ← List.append_cons]
      apply IsLines.retFeed _ hrest
      intro hbody
      exact h (List.mem_append_left [ret] hbody)
    · rw [withoutLast_of_ne hret]
      exact .feed h hret hrest
  · by_cases hne : xs = []
    · rw [hne]
      exact .nil
    · rw [linesBy_of_not_mem hfeed hne]
      exact .torn hne hfeed
termination_by xs.length
decreasing_by simp only [hxs, List.length_append, List.length_cons]; omega

theorem isLines_iff (hne : ret ≠ feed) : IsLines feed ret xs ls ↔ linesBy feed ret xs = ls := by
  constructor
  · intro h
    exact h.linesBy_eq hne
  · rintro rfl
    exact isLines_linesBy feed ret xs

end CallNotice.Text
