import CallNotice.Proofs.Time.Digits
import CallNotice.Time.Json
import Mathlib.Tactic.SplitIfs

namespace CallNotice.Timestamp

open Text

theorem separator?_cons {mark : Char} (h : isBlank mark = false) (rest : List Char) :
    separator? mark (mark :: rest) = some rest := by
  rw [separator?, trimStart_of_not_blank h]
  simp

theorem year?_digits {ds : List Char} (hne : ds ≠ []) (hds : ∀ c ∈ ds, isDigit c = true)
    (rest : List Char) :
    year? (ds ++ rest) = (number? 4 (ds ++ rest)).map fun (n, rest) => ((n : Int), rest) := by
  rw [year?, trimStart_digits hne hds]
  obtain ⟨c, cs, rfl⟩ := List.exists_cons_of_ne_nil hne
  have hc := hds c List.mem_cons_self
  split
  case h_1 h =>
    obtain rfl : c = '-' := (List.cons.inj h).1
    exact absurd hc (by decide)
  case h_2 h =>
    obtain rfl : c = '+' := (List.cons.inj h).1
    exact absurd hc (by decide)
  case h_3 => rfl

theorem year?_yearChars (year : Int) (rest : List Char) :
    year? (yearChars year ++ '-' :: rest) = some (year, '-' :: rest) := by
  have hds (n : Nat) : ∀ c ∈ zeroPadded 4 n, isDigit c = true := fun c => isDigit_of_mem_zeroPadded
  have hstop : ∀ c ∈ ('-' :: rest).head?, isDigit c = false := by
    rintro c ⟨⟩
    decide
  have hlong : (zeroPadded 4 year.natAbs).length ≤
      (zeroPadded 4 year.natAbs ++ '-' :: rest).length := by
    rw [List.length_append]
    omega
  have hsigned := number?_append (zeroPadded_ne_nil 4 year.natAbs) (hds _) hlong ('-' :: rest)
    (.inr hstop)
  unfold yearChars
  split_ifs with hshort hneg
  · have hbound : year.toNat < 10000 := by omega
    have hlen : (zeroPadded 4 year.toNat).length = 4 := length_zeroPadded (by decide) hbound
    rw [year?_digits (zeroPadded_ne_nil 4 year.toNat) (hds _),
      number?_append (zeroPadded_ne_nil 4 year.toNat) (hds _) (Nat.le_of_eq hlen) _ (.inl hlen),
      digitsValue_zeroPadded]
    simp only [Option.map_some, Int.toNat_of_nonneg hshort.1]
  · have hyear : -(year.natAbs : Int) = year := by omega
    rw [List.cons_append, year?, trimStart_of_not_blank (by decide)]
    simp only [hsigned, digitsValue_zeroPadded, Option.map_some, hyear]
  · have hyear : (year.natAbs : Int) = year := by omega
    rw [List.cons_append, year?, trimStart_of_not_blank (by decide)]
    simp only [hsigned, digitsValue_zeroPadded, Option.map_some, hyear]

theorem daysIn_le (year : Int) (month : Nat) : Calendar.daysIn year month ≤ 31 := by
  unfold Calendar.daysIn
  split <;> try split
  all_goals omega

theorem date?_dateChars (d : Date) (rest : List Char) :
    date? (dateChars d ++ rest) = some (d, rest) := by
  obtain ⟨-, -, hm, hm', hd, hd'⟩ := d.valid
  have hday : d.day ≤ 31 := Nat.le_trans hd' (daysIn_le d.year d.month)
  have hminus : isBlank '-' = false := by decide
  simp only [dateChars, List.append_assoc, List.cons_append, date?, year?_yearChars,
    separator?_cons hminus, part?_zeroPadded hm hm' (by omega), part?_zeroPadded hd hday (by omega),
    Option.bind_eq_bind, Option.bind_some, Date.of?_self, Option.pure_def]

theorem fraction?_append {width n : Nat} (hw : 0 < width) (hw' : width ≤ 9)
    (hn : n < Nat.pow 10 width) :
    fraction? ('.' :: zeroPadded width n ++ ['Z']) = some (n * Nat.pow 10 (9 - width), ['Z']) := by
  have hlen : (zeroPadded width n).length = width := length_zeroPadded hw hn
  have hds : ∀ c ∈ zeroPadded width n, isDigit c = true := fun c => isDigit_of_mem_zeroPadded
  have hdigits := digits_append hds (Nat.le_trans (Nat.le_of_eq hlen) hw') ['Z']
    (.inr (by rintro c ⟨⟩; decide))
  obtain ⟨c, cs, hcs⟩ := List.exists_cons_of_ne_nil (zeroPadded_ne_nil width n)
  have hv := digitsValue_zeroPadded width n
  rw [hcs] at hdigits hlen hv
  have hz : ['Z'].dropWhile isDigit = ['Z'] := by decide
  simp only [List.cons_append] at hdigits ⊢
  rw [hcs, List.cons_append, fraction?, hdigits]
  simp only [hlen, hv, hz]

theorem fraction?_fractionChars {nanos : Nat} (h : nanos < 1000000000) :
    fraction? (fractionChars nanos ++ ['Z']) = some (nanos, ['Z']) := by
  unfold fractionChars
  split_ifs with h₀ h₃ h₆
  · rw [h₀]
    rfl
  · have hbound : nanos / 1000000 < 1000 := by omega
    have hunit : Nat.pow 10 (9 - 3) = 1000000 := rfl
    rw [fraction?_append (by decide) (by decide) hbound, hunit]
    congr 2
    omega
  · have hbound : nanos / 1000 < 1000000 := by omega
    have hunit : Nat.pow 10 (9 - 6) = 1000 := rfl
    rw [fraction?_append (by decide) (by decide) hbound, hunit]
    congr 2
    omega
  · rw [fraction?_append (by decide) (by decide) h]
    congr 2
    exact Nat.mul_one nanos

theorem clock?_clockChars (t : Timestamp) :
    clock? t.date (t.clockChars ++ ['Z']) = some (t, ['Z']) := by
  obtain ⟨hh, hm, hs, hn⟩ := t.valid
  have hcolon : isBlank ':' = false := by decide
  simp only [clockChars, List.append_assoc, List.cons_append, clock?,
    part?_zeroPadded (Nat.zero_le t.hour) (by omega : t.hour ≤ 23) (by omega),
    part?_zeroPadded (Nat.zero_le t.minute) (by omega : t.minute ≤ 59) (by omega),
    part?_zeroPadded (Nat.zero_le t.second) hs (by omega), separator?_cons hcolon,
    fraction?_fractionChars hn, Option.bind_eq_bind, Option.bind_some, of?_self, Option.pure_def]

theorem ofText?_toText (t : Timestamp) : ofText? t.toText = some t := by
  have htrim : trimStart ['Z'] = ['Z'] := by decide
  have hoffset : offset? ['Z'] = some (0, []) := by decide
  have hend : trimStart [] = [] := rfl
  simp only [ofText?, toText, momentChars, String.toList_ofList, List.append_assoc,
    List.cons_append, ofChars?, date?_dateChars, joint?, clock?_clockChars, htrim, hoffset, hend,
    Option.bind_eq_bind, Option.bind_some, earlierBy?_zero, decide_true, Bool.or_true,
    Bool.true_or, if_true]

theorem ofJson?_toJson (t : Timestamp) : ofJson? t.toJson = some t := by
  rw [toJson, ofJson?, Json.text, Json.string?, Option.bind_some, ofText?_toText]

end CallNotice.Timestamp
