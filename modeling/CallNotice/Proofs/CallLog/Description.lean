import CallNotice.Proofs.Time.Digits
import CallNotice.Report
import CallNotice.Text.Visible

namespace CallNotice

namespace Text

def IsPlain (cs : List Char) : Prop := ∀ c ∈ cs, isControl c = false

instance : DecidablePred IsPlain := fun cs => List.decidableBAll (isControl · = false) cs

variable {cs ds : List Char} {c : Char}

theorem IsPlain.append (hcs : IsPlain cs) (hds : IsPlain ds) : IsPlain (cs ++ ds) := by
  intro c hc
  rcases List.mem_append.mp hc with hc | hc
  · exact hcs c hc
  · exact hds c hc

theorem IsPlain.cons (hc : isControl c = false) (hcs : IsPlain cs) : IsPlain (c :: cs) :=
  List.forall_mem_cons.mpr ⟨hc, hcs⟩

theorem IsPlain.not_mem (hcs : IsPlain cs) (hc : isControl c = true) : c ∉ cs := by
  intro hmem
  rw [hcs c hmem] at hc
  cases hc

theorem isPlain_spaces (n : Nat) : IsPlain (List.replicate n ' ') := by
  intro c hc
  rw [List.eq_of_mem_replicate hc]
  decide

theorem isControl_eq_false (hlow : 32 ≤ c.toNat) (hhigh : c.toNat < 127) : isControl c = false := by
  rw [isControl, Bool.or_eq_false_iff, Bool.and_eq_false_iff]
  exact ⟨decide_eq_false (by omega), .inl (decide_eq_false (by omega))⟩

theorem isPlain_of_digits (h : ∀ c ∈ cs, c.isDigit = true) : IsPlain cs := by
  intro c hc
  have hdigit := h c hc
  simp only [Char.isDigit, Bool.and_eq_true, decide_eq_true_eq, UInt32.le_iff_toNat_le, ge_iff_le]
    at hdigit
  have h₀ : ('0' : Char).val.toNat = 48 := rfl
  have h₉ : ('9' : Char).val.toNat = 57 := rfl
  have hval : c.val.toNat = c.toNat := rfl
  apply isControl_eq_false <;> omega

theorem isPlain_toString (n : Nat) : IsPlain (toString n).toList := by
  rw [Nat.toString_eq_repr, Nat.toList_repr]
  exact isPlain_of_digits fun c hc => Nat.isDigit_of_mem_toDigits (by decide) (by decide) hc

theorem isPlain_zeroPadded (width n : Nat) : IsPlain (zeroPadded width n) := by
  apply isPlain_of_digits
  intro c hc
  have hdigit := Timestamp.isDigit_of_mem_zeroPadded hc
  simpa [Timestamp.isDigit, Char.isDigit, Char.le_def] using hdigit

theorem toList_padLeft (width : Nat) (s : String) :
    (padLeft width s).toList = List.replicate (width - s.length) ' ' ++ s.toList := by
  rw [padLeft, String.toList_append, String.toList_ofList]

theorem toList_padRight (width : Nat) (s : String) :
    (padRight width s).toList = s.toList ++ List.replicate (width - s.length) ' ' := by
  rw [padRight, String.toList_append, String.toList_ofList]

end Text

open Text

theorem Timestamp.isPlain_toMinuteText (t : Timestamp) : IsPlain t.toMinuteText.toList := by
  have hyear : IsPlain (yearChars t.date.year) := by
    rw [yearChars]
    split
    · exact isPlain_zeroPadded _ _
    · split
      · exact .cons (by decide) (isPlain_zeroPadded _ _)
      · exact .cons (by decide) (isPlain_zeroPadded _ _)
  have hdate : IsPlain (dateChars t.date) :=
    (hyear.append (.cons (by decide) (isPlain_zeroPadded _ _))).append
      (.cons (by decide) (isPlain_zeroPadded _ _))
  rw [toMinuteText, String.toList_ofList]
  exact (hdate.append (.cons (by decide) (isPlain_zeroPadded _ _))).append
    (.cons (by decide) (isPlain_zeroPadded _ _))

namespace CallLogEntry

def caller (e : CallLogEntry) : String := e.name.getD e.number

def frontColumns (e : CallLogEntry) : List Char :=
  (padLeft 4 (toString e.id.toNat)).toList ++ [' ', ' '] ++ e.date.toMinuteText.toList ++ [' ', ' '] ++
    (padRight 9 e.type.name).toList ++ [' ']

def backColumns (e : CallLogEntry) : List Char :=
  List.replicate (20 - e.caller.length) ' ' ++ ' ' :: e.flags.toList

variable (e : CallLogEntry)

theorem toList_describe :
    e.describe.toList = e.frontColumns ++ e.caller.toList ++ e.backColumns := by
  simp only [describe, frontColumns, backColumns, caller, String.toList_append, toList_padRight,
    List.append_assoc]
  rfl

theorem isPlain_frontColumns : IsPlain e.frontColumns := by
  have hid : IsPlain (padLeft 4 (toString e.id.toNat)).toList := by
    rw [toList_padLeft]
    exact (isPlain_spaces _).append (isPlain_toString _)
  have htype : IsPlain (padRight 9 e.type.name).toList := by
    cases e.type <;> decide
  have hgap : IsPlain [' ', ' '] := isPlain_spaces 2
  exact ((((hid.append hgap).append e.date.isPlain_toMinuteText).append hgap).append htype).append
    (isPlain_spaces 1)

theorem isPlain_flags : IsPlain e.flags.toList := by
  rw [flags]
  split
  · decide
  · split
    · decide
    · decide

theorem isPlain_backColumns : IsPlain e.backColumns :=
  (isPlain_spaces _).append (.cons (by decide) e.isPlain_flags)

theorem count_describe : e.describe.toList.count '\n' = e.caller.toList.count '\n' := by
  have hfront := List.count_eq_zero.mpr (e.isPlain_frontColumns.not_mem (c := '\n') rfl)
  have hback := List.count_eq_zero.mpr (e.isPlain_backColumns.not_mem (c := '\n') rfl)
  rw [toList_describe, List.count_append, List.count_append, hfront, hback, Nat.zero_add,
    Nat.add_zero]

theorem mem_describe_iff : '\n' ∈ e.describe.toList ↔ '\n' ∈ e.caller.toList := by
  rw [← List.count_pos_iff, count_describe, List.count_pos_iff]

theorem getLast?_describe : e.describe.toList.getLast? ≠ some '\r' := by
  have hne : e.backColumns ≠ [] := List.append_ne_nil_of_right_ne_nil _ (List.cons_ne_nil _ _)
  rw [toList_describe, List.getLast?_append, Option.or_of_isSome]
  · intro hlast
    exact e.isPlain_backColumns.not_mem (c := '\r') rfl (List.mem_of_getLast? hlast)
  · exact List.getLast?_isSome.mpr hne

end CallLogEntry

end CallNotice
