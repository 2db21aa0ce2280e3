import CallNotice.Text.Blank

namespace CallNotice.Text

theorem trimStart_of_not_blank {c : Char} (h : isBlank c = false) (cs : List Char) :
    trimStart (c :: cs) = c :: cs := by
  rw [trimStart, List.dropWhile_cons_of_neg (by simp [h])]

def IsTrimmed (cs : List Char) : Prop :=
  (∀ c ∈ cs.head?, isBlank c = false) ∧ ∀ c ∈ cs.getLast?, isBlank c = false

theorem isBlank_of_mem_head?_dropWhile {c : Char} {cs : List Char}
    (h : c ∈ (cs.dropWhile isBlank).head?) : isBlank c = false := by
  have hhead := List.head?_dropWhile_not isBlank cs
  rw [Option.mem_def] at h
  rw [h] at hhead
  exact hhead

theorem trimChars_of_isTrimmed {cs : List Char} (h : IsTrimmed cs) : trimChars cs = cs := by
  obtain ⟨hhead, hlast⟩ := h
  cases cs with
  | nil => rfl
  | cons c cs =>
    obtain ⟨init, d, hcs⟩ := List.eq_nil_or_concat (c :: cs) |>.resolve_left (List.cons_ne_nil c cs)
    rw [trimChars, trimStart_of_not_blank (hhead c rfl)]
    rw [hcs, List.concat_eq_append] at hlast ⊢
    rw [trimEnd, List.reverse_append, List.reverse_singleton, List.singleton_append,
      List.dropWhile_cons_of_neg, List.reverse_cons, List.reverse_reverse]
    rw [hlast d (by simp)]
    decide

theorem isTrimmed_trimChars (cs : List Char) : IsTrimmed (trimChars cs) := by
  constructor
  · intro c hc
    have hprefix : trimChars cs <+: trimStart cs := by
      have hsuffix := List.dropWhile_suffix isBlank (l := (trimStart cs).reverse)
      rw [← List.reverse_prefix, List.reverse_reverse] at hsuffix
      exact hsuffix
    obtain ⟨rest, hrest⟩ := hprefix
    have hstart : c ∈ (trimStart cs).head? := by
      rw [← hrest, List.head?_append, Option.mem_def.mp hc]
      rfl
    exact isBlank_of_mem_head?_dropWhile hstart
  · intro c hc
    rw [trimChars, trimEnd, List.getLast?_reverse] at hc
    exact isBlank_of_mem_head?_dropWhile hc

theorem trimStart_append {before : List Char} (h : ∀ c ∈ before, isBlank c = true)
    (cs : List Char) : trimStart (before ++ cs) = trimStart cs := List.dropWhile_append_of_pos h

theorem trimEnd_append {after : List Char} (h : ∀ c ∈ after, isBlank c = true) (cs : List Char) :
    trimEnd (cs ++ after) = trimEnd cs := by
  rw [trimEnd, List.reverse_append, List.dropWhile_append_of_pos, trimEnd]
  intro c hc
  exact h c (List.mem_reverse.mp hc)

theorem trimChars_append {before after : List Char} (hbefore : ∀ c ∈ before, isBlank c = true)
    (hafter : ∀ c ∈ after, isBlank c = true) (cs : List Char) :
    trimChars (before ++ cs ++ after) = trimChars cs := by
  rw [trimChars, List.append_assoc, trimStart_append hbefore, trimChars]
  by_cases hnil : trimStart cs = []
  · have hcs := (trimStart_eq_nil_iff cs).mp hnil
    rw [trimStart_append hcs, (trimStart_eq_nil_iff after).mpr hafter, hnil]
  · have hkept : trimStart (cs ++ after) = trimStart cs ++ after := by
      rw [trimStart, List.dropWhile_append, if_neg, trimStart]
      rw [List.isEmpty_iff]
      exact hnil
    rw [hkept, trimEnd_append hafter]

theorem exists_append_trimChars (cs : List Char) :
    ∃ before after, cs = before ++ trimChars cs ++ after ∧
      (∀ c ∈ before, isBlank c = true) ∧ ∀ c ∈ after, isBlank c = true := by
  refine ⟨cs.takeWhile isBlank, ((trimStart cs).reverse.takeWhile isBlank).reverse, ?_, ?_, ?_⟩
  · have hend := List.takeWhile_append_dropWhile (p := isBlank) (l := (trimStart cs).reverse)
    have hstart := List.takeWhile_append_dropWhile (p := isBlank) (l := cs)
    rw [List.append_assoc, trimChars, trimEnd, ← List.reverse_append, hend, List.reverse_reverse]
    exact hstart.symm
  · intro c hc
    exact List.all_eq_true.mp List.all_takeWhile c hc
  · intro c hc
    exact List.all_eq_true.mp List.all_takeWhile c (List.mem_reverse.mp hc)

theorem toList_trim (s : String) : (trim s).toList = trimChars s.toList := String.toList_ofList

theorem trim_append {before after : String} (hbefore : isBlankText before = true)
    (hafter : isBlankText after = true) (s : String) : trim (before ++ s ++ after) = trim s := by
  rw [trim, String.toList_append, String.toList_append, trim,
    trimChars_append (List.all_eq_true.mp hbefore) (List.all_eq_true.mp hafter)]

theorem exists_append_trim (s : String) :
    ∃ before after, s = before ++ trim s ++ after ∧
      isBlankText before = true ∧ isBlankText after = true := by
  obtain ⟨before, after, hs, hbefore, hafter⟩ := exists_append_trimChars s.toList
  refine ⟨String.ofList before, String.ofList after, ?_, ?_, ?_⟩
  · rw [← String.toList_inj, String.toList_append, String.toList_append, toList_trim,
      String.toList_ofList, String.toList_ofList]
    exact hs
  · rw [isBlankText, String.toList_ofList, List.all_eq_true]
    exact hbefore
  · rw [isBlankText, String.toList_ofList, List.all_eq_true]
    exact hafter

end CallNotice.Text
