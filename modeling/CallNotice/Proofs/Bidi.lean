import CallNotice.Notifier

namespace CallNotice

namespace Bidi

def IsNeutral (cs : List Char) : Prop := ∀ c ∈ cs, strong? c = none

instance : DecidablePred IsNeutral := fun cs => List.decidableBAll (strong? · = none) cs

def StartsIn (d : Direction) (cs : List Char) : Prop :=
  ∃ before c rest, cs = before ++ c :: rest ∧ IsNeutral before ∧ strong? c = some d

def EndsIn (d : Direction) (cs : List Char) : Prop :=
  ∃ rest c after, cs = rest ++ c :: after ∧ IsNeutral after ∧ strong? c = some d

variable {rightToLeft : Bool} {cs ds before after : List Char} {d : Direction}

theorem firstStrong?_eq_some_iff : firstStrong? cs = some d ↔ StartsIn d cs := by
  rw [firstStrong?, List.findSome?_eq_some_iff]
  constructor
  · rintro ⟨before, c, rest, hcs, hc, hbefore⟩
    exact ⟨before, c, rest, hcs, hbefore, hc⟩
  · rintro ⟨before, c, rest, hcs, hbefore, hc⟩
    exact ⟨before, c, rest, hcs, hc, hbefore⟩

theorem IsNeutral.reverse (h : IsNeutral cs) : IsNeutral cs.reverse :=
  fun c hc => h c (List.mem_reverse.mp hc)

theorem startsIn_reverse_iff : StartsIn d cs.reverse ↔ EndsIn d cs := by
  constructor
  · rintro ⟨before, c, rest, hcs, hbefore, hc⟩
    refine ⟨rest.reverse, c, before.reverse, ?_, hbefore.reverse, hc⟩
    rw [← List.reverse_reverse cs, hcs]
    simp
  · rintro ⟨rest, c, after, rfl, hafter, hc⟩
    exact ⟨after.reverse, c, rest.reverse, by simp, hafter.reverse, hc⟩

theorem lastStrong?_eq_some_iff : lastStrong? cs = some d ↔ EndsIn d cs :=
  firstStrong?_eq_some_iff.trans startsIn_reverse_iff

theorem firstStrong?_eq_none (h : IsNeutral cs) : firstStrong? cs = none :=
  List.findSome?_eq_none_iff.mpr h

theorem firstStrong?_frame (hbefore : IsNeutral before) (hafter : IsNeutral after)
    (cs : List Char) : firstStrong? (before ++ cs ++ after) = firstStrong? cs := by
  have hbefore' : before.findSome? strong? = none := firstStrong?_eq_none hbefore
  have hafter' : after.findSome? strong? = none := firstStrong?_eq_none hafter
  rw [firstStrong?, List.findSome?_append, List.findSome?_append, hbefore', hafter',
    Option.none_or, Option.or_none, firstStrong?]

theorem lastStrong?_frame (hbefore : IsNeutral before) (hafter : IsNeutral after)
    (cs : List Char) : lastStrong? (before ++ cs ++ after) = lastStrong? cs := by
  have hframe := firstStrong?_frame hafter.reverse hbefore.reverse cs.reverse
  rwa [List.append_assoc, ← List.reverse_append, ← List.reverse_append] at hframe

def marksBefore (rightToLeft : Bool) (start : Option Direction) : List Char :=
  if rightToLeft then [rightMark, leftEmbedding] else markFor start

def marksAfter (rightToLeft : Bool) (ending : Option Direction) : List Char :=
  if rightToLeft then [popEmbedding, rightMark] else markFor ending

def marks : List Char := [leftMark, rightMark, leftEmbedding, popEmbedding]

theorem isNeutral_marks : IsNeutral marks := by decide +kernel

theorem isNeutral_of_marks (h : cs ⊆ marks) : IsNeutral cs := fun c hc => isNeutral_marks c (h hc)

theorem isNeutral_markFor (side : Option Direction) : IsNeutral (markFor side) := by
  rw [markFor]
  split
  · exact isNeutral_of_marks (by decide)
  · exact isNeutral_of_marks (by decide)

theorem isNeutral_marksBefore (rightToLeft : Bool) (start : Option Direction) :
    IsNeutral (marksBefore rightToLeft start) := by
  cases rightToLeft with
  | true =>
    change IsNeutral [rightMark, leftEmbedding]
    exact isNeutral_of_marks (by decide)
  | false => exact isNeutral_markFor start

theorem isNeutral_marksAfter (rightToLeft : Bool) (ending : Option Direction) :
    IsNeutral (marksAfter rightToLeft ending) := by
  cases rightToLeft with
  | true =>
    change IsNeutral [popEmbedding, rightMark]
    exact isNeutral_of_marks (by decide)
  | false => exact isNeutral_markFor ending

theorem wrapChars_eq (h : cs ≠ []) : wrapChars rightToLeft cs =
    marksBefore rightToLeft (firstStrong? cs) ++ cs ++ marksAfter rightToLeft (lastStrong? cs) := by
  rw [wrapChars, if_neg h]
  cases rightToLeft <;> rfl

theorem wrapChars_eq_nil_iff : wrapChars rightToLeft cs = [] ↔ cs = [] := by
  by_cases h : cs = []
  · rw [h]
    exact ⟨fun _ => rfl, fun _ => rfl⟩
  · rw [wrapChars_eq h, List.append_eq_nil_iff, List.append_eq_nil_iff]
    exact ⟨fun hnil => hnil.1.2, fun hnil => absurd hnil h⟩

theorem firstStrong?_wrapChars (rightToLeft : Bool) (cs : List Char) :
    firstStrong? (wrapChars rightToLeft cs) = firstStrong? cs := by
  by_cases h : cs = []
  · rw [h]
    rfl
  · rw [wrapChars_eq h]
    exact firstStrong?_frame (isNeutral_marksBefore _ _) (isNeutral_marksAfter _ _) cs

theorem lastStrong?_wrapChars (rightToLeft : Bool) (cs : List Char) :
    lastStrong? (wrapChars rightToLeft cs) = lastStrong? cs := by
  by_cases h : cs = []
  · rw [h]
    rfl
  · rw [wrapChars_eq h]
    exact lastStrong?_frame (isNeutral_marksBefore _ _) (isNeutral_marksAfter _ _) cs

/-- The directions of the framed text tell the marks, which can then be taken off. -/
theorem wrapChars_injective (rightToLeft : Bool) : Function.Injective (wrapChars rightToLeft) := by
  intro cs ds h
  have hfirst : firstStrong? cs = firstStrong? ds := by
    rw [← firstStrong?_wrapChars rightToLeft cs, h, firstStrong?_wrapChars]
  have hlast : lastStrong? cs = lastStrong? ds := by
    rw [← lastStrong?_wrapChars rightToLeft cs, h, lastStrong?_wrapChars]
  by_cases hcs : cs = []
  · rw [hcs] at h ⊢
    exact (wrapChars_eq_nil_iff.mp h.symm).symm
  · have hds : ds ≠ [] := by
      intro hnil
      rw [hnil] at h
      exact hcs (wrapChars_eq_nil_iff.mp h)
    rw [wrapChars_eq hcs, wrapChars_eq hds, hfirst, hlast, List.append_cancel_right_eq,
      List.append_cancel_left_eq] at h
    exact h

theorem toList_wrap (rightToLeft : Bool) (s : String) :
    (wrap rightToLeft s).toList = wrapChars rightToLeft s.toList := String.toList_ofList

theorem wrap_eq_empty_iff {s : String} : wrap rightToLeft s = "" ↔ s = "" := by
  have hempty (t : String) : t = "" ↔ t.toList = [] := String.toList_inj.symm
  rw [hempty, hempty, toList_wrap]
  exact wrapChars_eq_nil_iff

theorem wrap_injective (rightToLeft : Bool) : Function.Injective (wrap rightToLeft) := by
  intro s t h
  apply String.toList_inj.mp
  apply wrapChars_injective rightToLeft
  rw [← toList_wrap, h, toList_wrap]

theorem startsIn_wrap_iff {s : String} :
    StartsIn d (wrap rightToLeft s).toList ↔ StartsIn d s.toList := by
  rw [← firstStrong?_eq_some_iff, toList_wrap, firstStrong?_wrapChars, firstStrong?_eq_some_iff]

theorem endsIn_wrap_iff {s : String} :
    EndsIn d (wrap rightToLeft s).toList ↔ EndsIn d s.toList := by
  rw [← lastStrong?_eq_some_iff, toList_wrap, lastStrong?_wrapChars, lastStrong?_eq_some_iff]

theorem markFor_of_eq {side : Option Direction} (h : side = some .rightToLeft) :
    markFor side = [leftMark] := if_pos h

theorem markFor_of_ne {side : Option Direction} (h : side ≠ some .rightToLeft) :
    markFor side = [] := if_neg h

/-- Where the surroundings run from left to right, a side has a mark exactly if its nearest strong
character runs from right to left. -/
structure IsMarked (text before after : List Char) : Prop where
  start : StartsIn .rightToLeft text → before = [leftMark]
  noStart : ¬StartsIn .rightToLeft text → before = []
  ending : EndsIn .rightToLeft text → after = [leftMark]
  noEnding : ¬EndsIn .rightToLeft text → after = []

theorem isMarked (cs : List Char) :
    IsMarked cs (markFor (firstStrong? cs)) (markFor (lastStrong? cs)) where
  start h := markFor_of_eq (firstStrong?_eq_some_iff.mpr h)
  noStart h := markFor_of_ne (mt firstStrong?_eq_some_iff.mp h)
  ending h := markFor_of_eq (lastStrong?_eq_some_iff.mpr h)
  noEnding h := markFor_of_ne (mt lastStrong?_eq_some_iff.mp h)

end Bidi

namespace Notifier

def fallbackText (p : Notifier) (call : Call) : String :=
  if call.handle.address = "" then p.phrases.unknown
  else Bidi.wrap p.rightToLeft call.handle.address

variable {p : Notifier} {call : Call}

theorem callerText_of_not_shown (hname : shownName? call = none) :
    p.callerText call = p.fallbackText call := by
  rw [callerText, hname, fallbackText]

theorem callerText_of_address (hname : shownName? call = none) (haddress : call.handle.address ≠ "") :
    p.callerText call = Bidi.wrap p.rightToLeft call.handle.address := by
  rw [callerText_of_not_shown hname, fallbackText, if_neg haddress]

end Notifier

namespace Bidi

open Notifier

/-- A framed text is the text between marks. It starts and ends in the direction of the text, so
that no two texts are framed alike and no two callers without a name are shown alike. -/
theorem wrap_only_frames (rightToLeft : Bool) :
    (∀ s, wrap rightToLeft s = "" ↔ s = "") ∧
    (∀ s, s ≠ "" → ∃ before after, (wrap rightToLeft s).toList = before ++ s.toList ++ after ∧
      (rightToLeft = true → before = [rightMark, leftEmbedding] ∧ after = [popEmbedding, rightMark]) ∧
      (rightToLeft = false → IsMarked s.toList before after)) ∧
    (∀ s d, (StartsIn d (wrap rightToLeft s).toList ↔ StartsIn d s.toList) ∧
      (EndsIn d (wrap rightToLeft s).toList ↔ EndsIn d s.toList)) ∧
    Function.Injective (wrap rightToLeft) ∧
    ∀ (p : Notifier) (call call' : Call), p.rightToLeft = rightToLeft → shownName? call = none →
      shownName? call' = none → call.handle.address ≠ "" → call'.handle.address ≠ "" →
      p.callerText call = p.callerText call' → call.handle.address = call'.handle.address := by
  refine ⟨fun s => wrap_eq_empty_iff, fun s hs => ?_, fun s d => ⟨startsIn_wrap_iff, endsIn_wrap_iff⟩,
    wrap_injective rightToLeft, ?_⟩
  · have hne : s.toList ≠ [] := mt String.toList_eq_nil_iff.mp hs
    refine ⟨marksBefore rightToLeft (firstStrong? s.toList),
      marksAfter rightToLeft (lastStrong? s.toList), ?_, ?_, ?_⟩
    · rw [toList_wrap, wrapChars_eq hne]
    · rintro rfl
      exact ⟨rfl, rfl⟩
    · rintro rfl
      exact isMarked s.toList
  · rintro p call call' rfl hname hname' haddress haddress' htext
    rw [callerText_of_address hname haddress, callerText_of_address hname' haddress'] at htext
    exact wrap_injective p.rightToLeft htext

theorem wrap_only_frames_mixed :
    (wrap false "\u05D0a").toList = ['\u200E', '\u05D0', 'a'] ∧
      StartsIn .rightToLeft (wrap true "\u05D0a").toList ∧
      wrap false "\u200E\u05D0a" ≠ wrap false "\u05D0a" := by
  obtain ⟨-, hframe, -, hinjective, -⟩ := wrap_only_frames false
  obtain ⟨-, -, hdirections, -, -⟩ := wrap_only_frames true
  have hstart : StartsIn .rightToLeft "\u05D0a".toList := firstStrong?_eq_some_iff.mp (by decide)
  have hending : ¬EndsIn .rightToLeft "\u05D0a".toList :=
    mt lastStrong?_eq_some_iff.mpr (by decide +kernel)
  refine ⟨?_, (hdirections "\u05D0a" .rightToLeft).1.mpr hstart, hinjective.ne (by decide)⟩
  obtain ⟨before, after, htext, -, hmarked⟩ := hframe "\u05D0a" (by decide)
  rw [htext, (hmarked rfl).start hstart, (hmarked rfl).noEnding hending]
  rfl

end Bidi

end CallNotice
