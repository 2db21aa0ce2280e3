import CallNotice.Replay
import CallNotice.Proofs.Text.Splitting

namespace CallNotice.CallEvent

variable {clock : Nat → Timestamp} {number : Nat} {ls : List (List Char)} {events : List CallEvent}
  {fault : Fault}

def eventLines (number : Nat) (ls : List (List Char)) : List (List Char × Nat) :=
  (ls.zipIdx number).filter fun l =>
    Text.trimChars l.1 ≠ [] ∧ (Text.trimChars l.1).head? ≠ some '#'

def decode (clock : Nat → Timestamp) (l : List Char × Nat) : Option CallEvent :=
  ofText? (clock l.2) (String.ofList l.1)

theorem isComment_eq (line : List Char) : isComment line =
    !decide (Text.trimChars line ≠ [] ∧ (Text.trimChars line).head? ≠ some '#') := by
  rw [isComment]
  cases Text.trimChars line <;> simp

theorem eventLines_cons (number : Nat) (line : List Char) (ls : List (List Char)) :
    eventLines number (line :: ls) =
      if isComment line then eventLines (number + 1) ls
      else (line, number) :: eventLines (number + 1) ls := by
  rw [eventLines, List.zipIdx_cons, List.filter_cons, isComment_eq, eventLines]
  cases decide (Text.trimChars line ≠ [] ∧ (Text.trimChars line).head? ≠ some '#') <;> rfl

theorem eventLines_append (number : Nat) (xs ys : List (List Char)) :
    eventLines number (xs ++ ys) = eventLines number xs ++ eventLines (number + xs.length) ys := by
  rw [eventLines, List.zipIdx_append, List.filter_append, eventLines, eventLines]

theorem eventLines_shift (number n : Nat) (ls : List (List Char)) :
    eventLines (number + n) ls = (eventLines number ls).map (Prod.map id (· + n)) := by
  rw [eventLines, Nat.add_comm, ← List.map_snd_add_zipIdx_eq_zipIdx, List.filter_map,
    eventLines]
  rfl

theorem ofLines_ok_iff : ofLines clock number ls = .ok events ↔
    (eventLines number ls).map (decode clock) = events.map some := by
  induction ls generalizing number events with
  | nil => cases events <;> simp [ofLines, eventLines]
  | cons line ls ih =>
    -- The number goes on over every line, also over a comment, so the induction is for all numbers.
    rw [ofLines, eventLines_cons]
    by_cases h : isComment line = true
    · rw [if_pos h, if_pos h, ih]
    · rw [if_neg h, if_neg h, List.map_cons, decode]
      cases hevent : ofText? (clock number) (String.ofList line) with
      | none => cases events <;> simp
      | some event =>
        cases events with
        | nil => cases hrest : ofLines clock (number + 1) ls <;> simp [Except.map]
        | cons first events =>
          rw [List.map_cons, List.cons.injEq, Option.some.injEq, ← ih]
          cases hrest : ofLines clock (number + 1) ls <;> simp [Except.map]

theorem ofLines_error_iff : ofLines clock number ls = .error fault ↔
    ∃ l, (eventLines number ls).find? (fun l => (decode clock l).isNone) = some l ∧
      fault = badLine l.2 := by
  induction ls generalizing number with
  | nil => simp [ofLines, eventLines]
  | cons line ls ih =>
    rw [ofLines, eventLines_cons]
    by_cases h : isComment line = true
    · rw [if_pos h, if_pos h, ih]
    · rw [if_neg h, if_neg h, List.find?_cons, decode]
      cases hevent : ofText? (clock number) (String.ofList line) with
      | none => simp [eq_comm]
      | some event =>
        have hrest : (ofLines clock (number + 1) ls).map (event :: ·) = .error fault ↔
            ofLines clock (number + 1) ls = .error fault := by
          cases ofLines clock (number + 1) ls <;> simp [Except.map]
        simp only [Option.isNone_some]
        rw [hrest, ih]

theorem exists_ofLines_ok_iff : (∃ events, ofLines clock number ls = .ok events) ↔
    ∀ l ∈ eventLines number ls, (decode clock l).isSome := by
  constructor
  · rintro ⟨events, h⟩ l hl
    rw [ofLines_ok_iff] at h
    have hmem : decode clock l ∈ events.map some := by
      rw [← h]
      exact List.mem_map_of_mem hl
    obtain ⟨event, -, hevent⟩ := List.mem_map.mp hmem
    rw [← hevent, Option.isSome_some]
  · intro h
    cases hread : ofLines clock number ls with
    | ok events => exact ⟨events, rfl⟩
    | error fault =>
      obtain ⟨l, hfirst, -⟩ := ofLines_error_iff.mp hread
      have hsome := h l (List.mem_of_find?_eq_some hfirst)
      have hnone := List.find?_some hfirst
      rw [Option.isNone_iff_eq_none.mp hnone] at hsome
      cases hsome

section Append

variable {xs ys : List (List Char)} {before behind : List CallEvent} {n : Nat}

theorem ofLines_append_ok (hxs : ofLines clock number xs = .ok before)
    (hys : ofLines clock (number + xs.length) ys = .ok behind) :
    ofLines clock number (xs ++ ys) = .ok (before ++ behind) := by
  rw [ofLines_ok_iff] at hxs hys ⊢
  rw [eventLines_append, List.map_append, hxs, hys, List.map_append]

theorem ofLines_append_error (hxs : ofLines clock number xs = .error fault) (ys : List (List Char)) :
    ofLines clock number (xs ++ ys) = .error fault := by
  rw [ofLines_error_iff] at hxs ⊢
  obtain ⟨l, hfirst, hfault⟩ := hxs
  refine ⟨l, ?_, hfault⟩
  rw [eventLines_append, List.find?_append, hfirst, Option.some_or]

theorem ofLines_append_error_behind (hxs : ofLines clock number xs = .ok before)
    (hys : ofLines clock (number + xs.length) ys = .error fault) :
    ofLines clock number (xs ++ ys) = .error fault := by
  have hnone : (eventLines number xs).find? (fun l => (decode clock l).isNone) = none := by
    rw [List.find?_eq_none]
    intro l hl
    have hsome := exists_ofLines_ok_iff.mp ⟨before, hxs⟩ l hl
    simp [Option.ne_none_iff_isSome.mpr hsome]
  rw [ofLines_error_iff] at hys ⊢
  rw [eventLines_append, List.find?_append, hnone, Option.none_or]
  exact hys

theorem ofLines_shift_ok (h : ofLines (fun m => clock (m + n)) number ls = .ok events) :
    ofLines clock (number + n) ls = .ok events := by
  rw [ofLines_ok_iff] at h ⊢
  rw [eventLines_shift, List.map_map]
  exact h

theorem ofLines_shift_error (h : ofLines (fun m => clock (m + n)) number ls = .error fault) :
    ∃ m, fault = badLine m ∧ ofLines clock (number + n) ls = .error (badLine (m + n)) := by
  rw [ofLines_error_iff] at h
  obtain ⟨l, hfirst, rfl⟩ := h
  refine ⟨l.2, rfl, ofLines_error_iff.mpr ⟨Prod.map id (· + n) l, ?_, rfl⟩⟩
  rw [eventLines_shift, List.find?_map]
  exact congrArg (Option.map _) hfirst

end Append

section Texts

variable {a b : String} {before behind : List CallEvent}

theorem lines_append (ha : ∀ c ∈ a.toList.getLast?, c = '\n') (b : String) :
    Text.lines (a ++ b) = Text.lines a ++ Text.lines b := by
  rw [Text.lines, String.toList_append, Text.linesBy_append ha, Text.lines, Text.lines]

theorem ofText_append_ok (ha : ∀ c ∈ a.toList.getLast?, c = '\n')
    (hbefore : ofText clock a = .ok before)
    (hbehind : ofText (fun m => clock (m + (Text.lines a).length)) b = .ok behind) :
    ofText clock (a ++ b) = .ok (before ++ behind) := by
  rw [ofText, lines_append ha]
  exact ofLines_append_ok hbefore (ofLines_shift_ok hbehind)

theorem ofText_append_error (ha : ∀ c ∈ a.toList.getLast?, c = '\n')
    (h : ofText clock a = .error fault) (b : String) : ofText clock (a ++ b) = .error fault := by
  rw [ofText, lines_append ha]
  exact ofLines_append_error h _

theorem ofText_append_error_behind (ha : ∀ c ∈ a.toList.getLast?, c = '\n')
    (hbefore : ofText clock a = .ok before)
    (hbehind : ofText (fun m => clock (m + (Text.lines a).length)) b = .error fault) :
    ∃ m, fault = badLine m ∧
      ofText clock (a ++ b) = .error (badLine (m + (Text.lines a).length)) := by
  obtain ⟨m, hfault, hshifted⟩ := ofLines_shift_error hbehind
  refine ⟨m, hfault, ?_⟩
  rw [ofText, lines_append ha]
  exact ofLines_append_error_behind hbefore hshifted

end Texts

end CallNotice.CallEvent
