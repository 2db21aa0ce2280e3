import CallNotice.Text.Template
import Mathlib.Data.List.Infix

namespace CallNotice.Text

/-- Each piece ends where the mark is found first, and there is no mark in the last one. -/
inductive IsPieces (mark : List Char) : List Char → List (List Char) → Prop
  | last {cs : List Char} (h : ¬mark <:+: cs) : IsPieces mark cs [cs]
  | cut {piece rest : List Char} {pieces : List (List Char)}
      (hfirst : ¬mark <:+: piece ++ mark.dropLast) (hrest : IsPieces mark rest pieces) :
      IsPieces mark (piece ++ mark ++ rest) (piece :: pieces)

variable {mark piece rest cs value : List Char} {ps : List (List Char)}

theorem piecesFrom_skip (mark piece passed rest : List Char) :
    piecesFrom mark passed.length piece (passed ++ rest) = piecesFrom mark 0 piece rest := by
  induction passed with
  | nil => rfl
  | cons c passed ih => exact ih

theorem isPrefixOf_eq_false (h : ¬mark <:+: cs) : mark.isPrefixOf cs = false := by
  rw [Bool.eq_false_iff, ne_eq, List.isPrefixOf_iff_prefix]
  intro hbegins
  exact h hbegins.isInfix

theorem not_infix_tail {c : Char} (h : ¬mark <:+: c :: cs) : ¬mark <:+: cs := by
  intro hwithin
  exact h (List.infix_cons hwithin)

theorem piecesFrom_of_unmarked (h : ¬mark <:+: cs) (piece : List Char) :
    piecesFrom mark 0 piece cs = [piece.reverse ++ cs] := by
  induction cs generalizing piece with
  | nil => rw [piecesFrom, List.append_nil]
  | cons c cs ih =>
    rw [piecesFrom, if_neg (Nat.lt_irrefl 0), isPrefixOf_eq_false h, if_neg Bool.false_ne_true,
      ih (not_infix_tail h), List.reverse_cons, List.append_assoc, List.singleton_append]

theorem piecesFrom_mark (hmark : mark ≠ []) (piece rest : List Char) :
    piecesFrom mark 0 piece (mark ++ rest) = piece.reverse :: pieces mark rest := by
  obtain ⟨m, ms, rfl⟩ := List.exists_cons_of_ne_nil hmark
  have hbegins : (m :: ms).isPrefixOf (m :: (ms ++ rest)) = true := by
    rw [List.isPrefixOf_iff_prefix]
    exact List.prefix_append (m :: ms) rest
  rw [List.cons_append, piecesFrom, if_neg (Nat.lt_irrefl 0), if_pos hbegins, List.length_cons,
    Nat.add_sub_cancel, piecesFrom_skip, pieces]

theorem isPrefix_append_dropLast (piece mark rest : List Char) :
    piece ++ mark.dropLast <+: piece ++ mark ++ rest := by
  rw [List.append_assoc, List.prefix_append_right_inj]
  exact (List.dropLast_prefix mark).trans (List.prefix_append mark rest)

theorem not_prefix_of_first {c : Char} (h : ¬mark <:+: c :: piece ++ mark.dropLast) :
    ¬mark <+: c :: piece ++ mark ++ rest := by
  intro hbegins
  apply h
  apply List.IsPrefix.isInfix
  apply List.prefix_of_prefix_length_le hbegins (isPrefix_append_dropLast (c :: piece) mark rest)
  rw [List.length_append, List.length_cons, List.length_dropLast]
  omega

theorem piecesFrom_cut (hmark : mark ≠ []) (hfirst : ¬mark <:+: piece ++ mark.dropLast)
    (before rest : List Char) :
    piecesFrom mark 0 before (piece ++ mark ++ rest) =
      (before.reverse ++ piece) :: pieces mark rest := by
  induction piece generalizing before with
  | nil => rw [List.nil_append, piecesFrom_mark hmark, List.append_nil]
  | cons c piece ih =>
    have hfound : mark.isPrefixOf (c :: (piece ++ mark ++ rest)) = false := by
      rw [Bool.eq_false_iff, ne_eq, List.isPrefixOf_iff_prefix]
      exact not_prefix_of_first hfirst
    rw [List.cons_append, List.cons_append, piecesFrom, if_neg (Nat.lt_irrefl 0), hfound,
      if_neg Bool.false_ne_true, ih (not_infix_tail hfirst), List.reverse_cons, List.append_assoc,
      List.singleton_append]

theorem IsPieces.pieces_eq (h : IsPieces mark cs ps) (hmark : mark ≠ []) : pieces mark cs = ps := by
  induction h with
  | last h => exact piecesFrom_of_unmarked h []
  | @cut piece rest _ hfirst _ ih => rw [pieces, piecesFrom_cut hmark hfirst, ih, List.reverse_nil,
      List.nil_append]

theorem exists_first_mark (hmark : mark ≠ []) (h : mark <:+: cs) :
    ∃ piece rest, cs = piece ++ mark ++ rest ∧ ¬mark <:+: piece ++ mark.dropLast := by
  induction cs with
  | nil => exact absurd (List.infix_nil.mp h) hmark
  | cons c cs ih =>
    by_cases hbegins : mark <+: c :: cs
    · obtain ⟨rest, hrest⟩ := hbegins
      refine ⟨[], rest, hrest.symm, fun hwithin => ?_⟩
      have hlength := hwithin.length_le
      have hpos := List.length_pos_of_ne_nil hmark
      rw [List.nil_append, List.length_dropLast] at hlength
      omega
    · obtain ⟨piece, rest, rfl, hfirst⟩ := ih ((List.infix_cons_iff.mp h).resolve_left hbegins)
      refine ⟨c :: piece, rest, rfl, fun hwithin => ?_⟩
      rcases List.infix_cons_iff.mp hwithin with hstart | hwithin
      · exact hbegins (hstart.trans (isPrefix_append_dropLast (c :: piece) mark rest))
      · exact hfirst hwithin

theorem isPieces_pieces (hmark : mark ≠ []) (cs : List Char) : IsPieces mark cs (pieces mark cs) := by
  by_cases h : mark <:+: cs
  · obtain ⟨piece, rest, hcs, hfirst⟩ := exists_first_mark hmark h
    have hrest : IsPieces mark rest (pieces mark rest) := isPieces_pieces hmark rest
    have hcut := IsPieces.cut hfirst hrest
    rw [hcs, hcut.pieces_eq hmark]
    exact hcut
  · have hlast : IsPieces mark cs [cs] := .last h
    rw [hlast.pieces_eq hmark]
    exact hlast
termination_by cs.length
decreasing_by
  have hpos := List.length_pos_of_ne_nil hmark
  simp only [hcs, List.length_append]
  omega

theorem isPieces_iff (hmark : mark ≠ []) : IsPieces mark cs ps ↔ ps = pieces mark cs := by
  constructor
  · intro h
    exact (h.pieces_eq hmark).symm
  · rintro rfl
    exact isPieces_pieces hmark cs

namespace IsPieces

theorem ne_nil (h : IsPieces mark cs ps) : ps ≠ [] := by cases h <;> exact List.cons_ne_nil _ _

theorem not_infix_of_mem (h : IsPieces mark cs ps) : ∀ p ∈ ps, ¬mark <:+: p := by
  induction h with
  | last h =>
    intro p hp
    rwa [List.mem_singleton.mp hp]
  | @cut piece rest pieces hfirst _ ih =>
    intro p hp
    rcases List.mem_cons.mp hp with rfl | hmem
    · intro hwithin
      exact hfirst (hwithin.trans (List.prefix_append p mark.dropLast).isInfix)
    · exact ih p hmem

theorem exists_two (h : IsPieces mark cs ps) (hmark : mark <:+: cs) :
    ∃ first second others, ps = first :: second :: others := by
  cases h with
  | last hnone => exact absurd hmark hnone
  | @cut piece rest pieces hfirst hrest =>
    obtain ⟨second, others, rfl⟩ := List.exists_cons_of_ne_nil hrest.ne_nil
    exact ⟨piece, second, others, rfl⟩

end IsPieces

theorem infix_or_infix_of_not_mem {c : Char} {xs ys : List Char} (hc : c ∉ mark)
    (h : mark <:+: xs ++ c :: ys) : mark <:+: xs ∨ mark <:+: ys := by
  have hempty {start : List Char} (hstart : start <+: c :: ys) (hsub : start ⊆ mark) :
      start = [] := by
    cases start with
    | nil => rfl
    | cons d start =>
      obtain ⟨rfl, -⟩ := List.cons_prefix_cons.mp hstart
      exact absurd (hsub List.mem_cons_self) hc
  rcases List.infix_append_iff.mp h with hxs | hys | ⟨ending, start, rfl, hending, hstart⟩
  · exact .inl hxs
  · rcases List.infix_cons_iff.mp hys with hstart | hys
    · rw [hempty hstart (List.Subset.refl mark)]
      exact .inl List.nil_infix
    · exact .inr hys
  · rw [hempty hstart (List.subset_append_right ending start), List.append_nil]
    exact .inl hending.isInfix

theorem infix_or_infix_of_disjoint (hne : value ≠ []) (hvalue : ∀ c ∈ value, c ∉ mark)
    {xs ys : List Char} (h : mark <:+: xs ++ value ++ ys) : mark <:+: xs ∨ mark <:+: ys := by
  induction value generalizing xs with
  | nil => exact absurd rfl hne
  | cons c value ih =>
    rw [List.append_assoc, List.cons_append] at h
    rcases infix_or_infix_of_not_mem (hvalue c List.mem_cons_self) h with hxs | hrest
    · exact .inl hxs
    · by_cases hnil : value = []
      · rw [hnil] at hrest
        exact .inr hrest
      · have hvalue' : ∀ d ∈ value, d ∉ mark := fun d hd => hvalue d (List.mem_cons_of_mem c hd)
        have hrest' : mark <:+: [] ++ value ++ ys := hrest
        rcases ih hnil hvalue' hrest' with hempty | hys
        · rw [List.infix_nil.mp hempty]
          exact .inl List.nil_infix
        · exact .inr hys

theorem not_infix_intercalate (hmark : mark ≠ []) (hne : value ≠ [])
    (hvalue : ∀ c ∈ value, c ∉ mark) (hps : ∀ p ∈ ps, ¬mark <:+: p) :
    ¬mark <:+: value.intercalate ps := by
  induction ps with
  | nil => exact fun h => hmark (List.infix_nil.mp h)
  | cons p ps ih =>
    cases ps with
    | nil =>
      rw [List.intercalate_singleton]
      exact hps p List.mem_cons_self
    | cons q ps =>
      rw [List.intercalate_cons_cons]
      intro h
      rcases infix_or_infix_of_disjoint hne hvalue h with hp | hrest
      · exact hps p List.mem_cons_self hp
      · exact ih (fun r hr => hps r (List.mem_cons_of_mem p hr)) hrest

theorem length_intercalate (value p : List Char) (ps : List (List Char)) :
    (value.intercalate (p :: ps)).length = (p :: ps).flatten.length + ps.length * value.length := by
  induction ps generalizing p with
  | nil => simp
  | cons q ps ih =>
    have hflatten : (p :: q :: ps).flatten.length = p.length + (q :: ps).flatten.length :=
      List.length_append
    rw [List.intercalate_cons_cons, List.length_append, List.length_append, ih, hflatten,
      List.length_cons, Nat.succ_mul]
    omega

theorem intercalate_inj {value' p q : List Char}
    (h : value.intercalate (p :: q :: ps) = value'.intercalate (p :: q :: ps)) : value = value' := by
  have hlength := congrArg List.length h
  rw [length_intercalate, length_intercalate, Nat.add_left_cancel_iff] at hlength
  have hsame : value.length = value'.length :=
    Nat.eq_of_mul_eq_mul_left (Nat.succ_pos ps.length) hlength
  rw [List.intercalate_cons_cons, List.intercalate_cons_cons, List.append_assoc, List.append_assoc,
    List.append_cancel_left_eq] at h
  exact List.append_inj_left h hsame

end CallNotice.Text
