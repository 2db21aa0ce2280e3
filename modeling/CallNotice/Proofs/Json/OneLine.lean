import CallNotice.Proofs.Json.Reading

namespace CallNotice.Json

theorem le_of_mem_toDigits {c : Char} {n : Nat} (h : c ∈ Nat.toDigits 10 n) : 0x20 ≤ c.toNat := by
  have hc := Lexer.isDigit_of_mem_toDigits h
  simp only [Lexer.isDigit, Bool.and_eq_true, decide_eq_true_eq, Char.le_def,
    UInt32.le_iff_toNat_le] at hc
  have h₀ : ('0' : Char).val.toNat = 48 := rfl
  change 0x20 ≤ c.val.toNat
  omega

theorem le_of_mem_hexPair {n : Nat} (hn : n < 256) {x : Char} (h : x ∈ hexPair n) :
    0x20 ≤ x.toNat := by
  have hdigit : ∀ n < 16, 0x20 ≤ n.digitChar.toNat := by decide
  simp only [hexPair, List.mem_cons, List.not_mem_nil, or_false] at h
  rcases h with rfl | rfl
  · exact hdigit _ (by omega)
  · exact hdigit _ (by omega)

theorem le_of_mem_of_all {cs : List Char} (hcs : (cs.all fun c => 0x20 ≤ c.toNat) = true) {x : Char}
    (hx : x ∈ cs) : 0x20 ≤ x.toNat := of_decide_eq_true (List.all_eq_true.mp hcs x hx)

theorem le_of_mem_escapedChar {c x : Char} (h : x ∈ escapedChar c) : 0x20 ≤ x.toNat := by
  unfold escapedChar at h
  split_ifs at h with h₁ h₂ h₃ h₄ h₅ h₆ h₇ h₈
  · exact le_of_mem_of_all (by decide) h
  · exact le_of_mem_of_all (by decide) h
  · exact le_of_mem_of_all (by decide) h
  · exact le_of_mem_of_all (by decide) h
  · exact le_of_mem_of_all (by decide) h
  · exact le_of_mem_of_all (by decide) h
  · exact le_of_mem_of_all (by decide) h
  · rcases List.mem_append.mp h with h | h
    · exact le_of_mem_of_all (by decide) h
    · exact le_of_mem_hexPair (by omega) h
  · obtain rfl := List.mem_singleton.mp h
    omega

theorem le_of_mem_chars (t : Token) {c : Char} (h : c ∈ t.chars) : 0x20 ≤ c.toNat := by
  cases t with
  | int i =>
    cases i with
    | ofNat n => exact le_of_mem_toDigits h
    | negSucc n =>
      rcases List.mem_cons.mp h with rfl | h
      · decide
      · exact le_of_mem_toDigits h
  | str t =>
    cases t with
    | none => exact le_of_mem_of_all (by decide) h
    | some s =>
      simp only [Token.chars, stringChars, List.cons_append, List.mem_cons, List.mem_append,
        List.mem_flatMap, List.not_mem_nil, or_false] at h
      rcases h with rfl | ⟨x, -, hx⟩ | rfl
      · decide
      · exact le_of_mem_escapedChar hx
      · decide
  | bool b => cases b <;> exact le_of_mem_of_all (by decide) h
  | real finite => cases finite <;> exact le_of_mem_of_all (by decide) h
  | _ => exact le_of_mem_of_all (by decide) h

theorem le_of_mem_compact (j : Json) {c : Char} (h : c ∈ j.compact.toList) : 0x20 ≤ c.toNat := by
  rw [compact, String.toList_ofList, List.mem_flatMap] at h
  obtain ⟨t, -, hc⟩ := h
  exact le_of_mem_chars t hc

theorem chars_ne_nil (t : Token) : t.chars ≠ [] := by
  cases t with
  | int i =>
    cases i with
    | ofNat n => exact Nat.toDigits_ne_nil
    | negSucc n => exact List.cons_ne_nil _ _
  | str t => cases t <;> exact List.cons_ne_nil _ _
  | bool b => cases b <;> exact List.cons_ne_nil _ _
  | real finite => cases finite <;> exact List.cons_ne_nil _ _
  | _ => exact List.cons_ne_nil _ _

theorem compact_ne_nil (j : Json) : j.compact.toList ≠ [] := by
  obtain ⟨t, ts, hts, -⟩ := Reader.tokensBefore_eq_cons [] j
  rw [compact, String.toList_ofList, tokens, hts, List.flatMap_cons]
  exact List.append_ne_nil_of_left_ne_nil (chars_ne_nil t) _

end CallNotice.Json
