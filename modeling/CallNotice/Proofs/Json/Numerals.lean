import CallNotice.Json.Printer

namespace CallNotice.Json.Lexer

theorem isDigit_of_mem_toDigits {c : Char} {n : Nat} (h : c ∈ Nat.toDigits 10 n) :
    isDigit c = true := by
  have hc : c.isDigit = true := Nat.isDigit_of_mem_toDigits (by decide) (by decide) h
  simpa [isDigit, Char.isDigit, Char.le_def] using hc

theorem toDigits_eq_cons (n : Nat) (hn : 0 < n) :
    ∃ c cs, Nat.toDigits 10 n = c :: cs ∧ c ≠ '0' := by
  induction n using Nat.strongRecOn with
  | ind n ih =>
    by_cases hs : n < 10
    · refine ⟨n.digitChar, [], Nat.toDigits_of_lt_base hs, ?_⟩
      have hd : ∀ m < 10, 0 < m → m.digitChar ≠ '0' := by decide
      exact hd n hs hn
    · obtain ⟨c, cs, hc, h0⟩ := ih (n / 10) (by omega) (by omega)
      refine ⟨c, cs ++ [(n % 10).digitChar], ?_, h0⟩
      rw [Nat.toDigits_of_base_le (by decide) (by omega), hc, List.cons_append]

theorem numberStep_of_isDigit (n : Numeral) {c : Char} (hc : isDigit c = true) :
    numberStep n c = some (n.digit (digitValue c)) := by
  simp only [numberStep, hc, if_true]

theorem foldlM_digits (found : List Token) (ds : List Char) (n : Numeral) (hn : n.phase = .whole)
    (hd : ∀ c ∈ ds, isDigit c = true) :
    ds.foldlM step ⟨found, .number n⟩ =
      some ⟨found, .number { n with digits := Nat.ofDigitChars 10 ds n.digits }⟩ := by
  induction ds generalizing n with
  | nil => simp
  | cons c ds ih =>
    have hstep : step ⟨found, .number n⟩ c =
        some ⟨found, .number { n with digits := n.digits * 10 + digitValue c }⟩ := by
      simp only [step, numberStep_of_isDigit n (hd c (by simp)), Numeral.digit, hn,
        Option.map_some]
    rw [List.foldlM_cons, hstep, Option.bind_eq_bind, Option.bind_some,
      ih { n with digits := n.digits * 10 + digitValue c } hn
        fun x hx => hd x (List.mem_cons_of_mem _ hx)]
    simp only [Nat.ofDigitChars_cons, digitValue, Nat.mul_comm]

theorem ne_of_isDigit {c d : Char} (hc : isDigit c = true) (hd : isDigit d = false) : c ≠ d := by
  rintro rfl
  rw [hd] at hc
  exact absurd hc (by decide)

theorem digitValue_ne_zero {c : Char} (hc : isDigit c = true) (h0 : c ≠ '0') :
    digitValue c ≠ 0 := by
  simp only [isDigit, Bool.and_eq_true, decide_eq_true_eq, Char.le_def, UInt32.le_iff_toNat_le] at hc
  intro hv
  apply h0
  apply Char.toNat_inj.mp
  simp only [digitValue] at hv
  exact Nat.le_antisymm (Nat.sub_eq_zero_iff_le.mp hv) hc.1

theorem begin_digit (found : List Token) (c : Char) (hc : isDigit c = true) (h0 : c ≠ '0') :
    begin found c = some ⟨found, .number (.start false (digitValue c) .whole)⟩ := by
  have hspace : isSpace c = false := by
    simp only [isSpace, ne_of_isDigit hc (show isDigit ' ' = false by decide),
      ne_of_isDigit hc (show isDigit '\t' = false by decide),
      ne_of_isDigit hc (show isDigit '\n' = false by decide),
      ne_of_isDigit hc (show isDigit '\r' = false by decide), decide_false, Bool.or_self]
  have hquote : c ≠ '"' := ne_of_isDigit hc (by decide)
  have hminus : c ≠ '-' := ne_of_isDigit hc (by decide)
  simp [begin, hspace, hquote, hminus, h0, hc]

theorem foldlM_whole (found : List Token) (negative : Bool) (n : Nat) (c : Char) (cs : List Char)
    (hn : Nat.toDigits 10 n = c :: cs) :
    cs.foldlM step ⟨found, .number (.start negative (digitValue c) .whole)⟩ =
      some ⟨found, .number (.start negative n .whole)⟩ := by
  have hd : ∀ x ∈ cs, isDigit x = true := fun x hx =>
    isDigit_of_mem_toDigits (hn ▸ List.mem_cons_of_mem c hx)
  have hv : Nat.ofDigitChars 10 cs (digitValue c) = n := by
    have h := Nat.ofDigitChars_ten_toDigits (n := n)
    rwa [hn, Nat.ofDigitChars_cons, Nat.mul_zero, Nat.zero_add] at h
  rw [foldlM_digits found cs (.start negative (digitValue c) .whole) rfl hd]
  simp only [Numeral.start, hv]

theorem foldlM_int (found : List Token) (i : Int) :
    ∃ l, (Token.int i).chars.foldlM step ⟨found, .between⟩ = some l ∧
      l.settle = some (.int i :: found) := by
  cases i with
  | ofNat n =>
    rcases Nat.eq_zero_or_pos n with rfl | hn
    · exact ⟨_, rfl, rfl⟩
    · obtain ⟨c, cs, hc, h0⟩ := toDigits_eq_cons n hn
      have hd : isDigit c = true := isDigit_of_mem_toDigits (hc ▸ List.mem_cons_self)
      refine ⟨⟨found, .number (.start false n .whole)⟩, ?_, rfl⟩
      rw [Token.chars, intChars, hc, List.foldlM_cons, step, begin_digit found c hd h0]
      exact foldlM_whole found false n c cs hc
  | negSucc n =>
    obtain ⟨c, cs, hc, h0⟩ := toDigits_eq_cons (n + 1) (by omega)
    have hd : isDigit c = true := isDigit_of_mem_toDigits (hc ▸ List.mem_cons_self)
    have hv : digitValue c ≠ 0 := digitValue_ne_zero hd h0
    have hminus : step ⟨found, .between⟩ '-' = some ⟨found, .number (.start true 0 .sign)⟩ := rfl
    have hfirst : step ⟨found, .number (.start true 0 .sign)⟩ c =
        some ⟨found, .number (.start true (digitValue c) .whole)⟩ := by
      simp [step, numberStep_of_isDigit _ hd, Numeral.digit, Numeral.start, hv]
    refine ⟨⟨found, .number (.start true (n + 1) .whole)⟩, ?_, rfl⟩
    rw [Token.chars, intChars, hc, List.foldlM_cons, hminus, Option.bind_eq_bind, Option.bind_some,
      List.foldlM_cons, hfirst]
    exact foldlM_whole found true (n + 1) c cs hc

end CallNotice.Json.Lexer
