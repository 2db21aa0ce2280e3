import CallNotice.Proofs.Text.Trimming
import CallNotice.Text.Padded
import CallNotice.Time.Reader

namespace CallNotice.Timestamp

open Text

theorem digitsValue_eq (ds : List Char) : digitsValue ds = Nat.ofDigitChars 10 ds 0 := by
  rw [digitsValue, Nat.ofDigitChars_eq_foldl]
  congr 1
  funext n c
  rw [Nat.mul_comm, digitValue]

theorem isDigit_of_mem_zeroPadded {width n : Nat} {c : Char} (h : c ∈ zeroPadded width n) :
    isDigit c = true := by
  rcases List.mem_append.mp h with h | h
  · rw [List.eq_of_mem_replicate h]
    decide
  · have hc : c.isDigit = true := Nat.isDigit_of_mem_toDigits (by decide) (by decide) h
    simpa [isDigit, Char.isDigit, Char.le_def] using hc

theorem digitsValue_zeroPadded (width n : Nat) : digitsValue (zeroPadded width n) = n := by
  rw [digitsValue_eq, zeroPadded, Nat.ofDigitChars_append, Nat.ofDigitChars_replicate_zero,
    Nat.mul_zero, Nat.ofDigitChars_ten_toDigits]

theorem length_zeroPadded {width n : Nat} (hw : 0 < width) (hn : n < Nat.pow 10 width) :
    (zeroPadded width n).length = width := by
  have h := (Nat.length_toDigits_le_iff (b := 10) (n := n) (by decide) hw).mpr hn
  rw [zeroPadded, List.length_append, List.length_replicate]
  omega

theorem zeroPadded_ne_nil (width n : Nat) : zeroPadded width n ≠ [] :=
  List.append_ne_nil_of_right_ne_nil _ Nat.toDigits_ne_nil

theorem isBlank_of_isDigit {c : Char} (h : isDigit c = true) : isBlank c = false := by
  simp only [isDigit, Bool.and_eq_true, decide_eq_true_eq, Char.le_def, UInt32.le_iff_toNat_le] at h
  have h₀ : ('0' : Char).val.toNat = 48 := rfl
  have h₉ : ('9' : Char).val.toNat = 57 := rfl
  have hc : c.val.toNat = c.toNat := rfl
  rw [← Bool.not_eq_true, isBlank, CodeRanges.holds_iff]
  rintro ⟨r, hr, hlow, hhigh⟩
  simp only [blanks, List.mem_cons, List.not_mem_nil, or_false] at hr
  rcases hr with rfl | rfl | rfl | rfl | rfl | rfl | rfl | rfl | rfl | rfl <;> omega

theorem trimStart_digits {ds : List Char} (hne : ds ≠ []) (hds : ∀ c ∈ ds, isDigit c = true)
    (rest : List Char) : trimStart (ds ++ rest) = ds ++ rest := by
  obtain ⟨c, cs, rfl⟩ := List.exists_cons_of_ne_nil hne
  exact trimStart_of_not_blank (isBlank_of_isDigit (hds c List.mem_cons_self)) _

theorem digits_append {most : Nat} {ds : List Char} (hds : ∀ c ∈ ds, isDigit c = true)
    (hlen : ds.length ≤ most) (rest : List Char)
    (hrest : ds.length = most ∨ ∀ c ∈ rest.head?, isDigit c = false) :
    digits most (ds ++ rest) = (ds, rest) := by
  have htake : ((ds ++ rest).take most).takeWhile isDigit = ds := by
    rw [List.take_append, List.take_of_length_le hlen, List.takeWhile_append_of_pos hds]
    rcases hrest with h | h
    · rw [h, Nat.sub_self, List.take_zero, List.takeWhile_nil, List.append_nil]
    · cases rest with
      | nil => simp
      | cons c rest =>
        have hc : isDigit c = false := h c rfl
        cases most - ds.length with
        | zero => simp
        | succ k => simp [hc]
  rw [digits, htake, List.drop_left]

theorem number?_append {most : Nat} {ds : List Char} (hne : ds ≠ [])
    (hds : ∀ c ∈ ds, isDigit c = true) (hlen : ds.length ≤ most) (rest : List Char)
    (hrest : ds.length = most ∨ ∀ c ∈ rest.head?, isDigit c = false) :
    number? most (ds ++ rest) = some (digitsValue ds, rest) := by
  obtain ⟨c, cs, rfl⟩ := List.exists_cons_of_ne_nil hne
  rw [number?, digits_append hds hlen rest hrest]

theorem part?_zeroPadded {least greatest n : Nat} (hleast : least ≤ n) (hgreatest : n ≤ greatest)
    (hn : n < 100) (rest : List Char) :
    part? least greatest (zeroPadded 2 n ++ rest) = some (n, rest) := by
  have hlen : (zeroPadded 2 n).length = 2 := length_zeroPadded (by decide) hn
  have hds : ∀ c ∈ zeroPadded 2 n, isDigit c = true := fun c => isDigit_of_mem_zeroPadded
  rw [part?, trimStart_digits (zeroPadded_ne_nil 2 n) hds,
    number?_append (zeroPadded_ne_nil 2 n) hds (Nat.le_of_eq hlen) rest (.inl hlen),
    digitsValue_zeroPadded]
  simp [hleast, hgreatest]

end CallNotice.Timestamp
