import CallNotice.Proofs.Handle
import Mathlib.Data.List.Induction

namespace CallNotice.Handle

open Text

/-- The text is a scheme and an address, with a colon between them. -/
structure IsSplit (text scheme address : List Char) : Prop where
  text_eq : text = scheme ++ ':' :: address
  letter : ∃ c ∈ scheme.head?, c.isAlpha = true
  chars : ∀ c ∈ scheme, c.isAlphanum = true ∨ c = '+' ∨ c = '.' ∨ c = '-'
  oneLine : '\n' ∉ address

theorem isLetter_eq (c : Char) : isLetter c = c.isAlpha := by
  have hupper : (decide ('A' ≤ c) && decide (c ≤ 'Z')) = c.isUpper := (Bool.decide_and _ _).symm
  calc isLetter c
    _ = (c.isLower || c.isUpper) := congrArg (c.isLower || ·) hupper
    _ = c.isAlpha := Bool.or_comm _ _

theorem isSchemeChar_iff {c : Char} :
    isSchemeChar c = true ↔ c.isAlphanum = true ∨ c = '+' ∨ c = '.' ∨ c = '-' := by
  simp only [isSchemeChar, Bool.or_eq_true, isLetter_eq, Char.isAlphanum, Char.isDigit,
    Bool.and_eq_true, decide_eq_true_eq, Char.le_def, ge_iff_le, or_assoc]

theorem isScheme_iff {scheme : List Char} :
    isScheme scheme = true ↔ (∃ c ∈ scheme.head?, c.isAlpha = true) ∧
      ∀ c ∈ scheme, c.isAlphanum = true ∨ c = '+' ∨ c = '.' ∨ c = '-' := by
  constructor
  · intro h
    refine ⟨?_, fun c hc => isSchemeChar_iff.mp (isSchemeChar_of_mem h hc)⟩
    cases scheme with
    | nil => cases h
    | cons c cs => exact ⟨c, rfl, isLetter_eq c ▸ (Bool.and_eq_true_iff.mp h).1⟩
  · rintro ⟨⟨c, hhead, hletter⟩, hchars⟩
    cases scheme with
    | nil => cases hhead
    | cons d ds =>
      cases hhead
      rw [isScheme, Bool.and_eq_true, List.all_eq_true]
      exact ⟨(isLetter_eq _).trans hletter, fun e he =>
        isSchemeChar_iff.mpr (hchars e (List.mem_cons_of_mem _ he))⟩

variable {s : String} {text scheme address : List Char}

theorem split?_iff_isSplit : split? text = some (scheme, address) ↔ IsSplit text scheme address := by
  rw [split?_eq_some_iff, isScheme_iff]
  constructor
  · rintro ⟨htext, ⟨hletter, hchars⟩, honeLine⟩
    exact ⟨htext, hletter, hchars, honeLine⟩
  · rintro ⟨htext, hletter, hchars, honeLine⟩
    exact ⟨htext, ⟨hletter, hchars⟩, honeLine⟩

theorem IsSplit.isScheme (h : IsSplit text scheme address) : isScheme scheme = true :=
  isScheme_iff.mpr ⟨h.letter, h.chars⟩

theorem IsSplit.not_mem_colon (h : IsSplit text scheme address) : ':' ∉ scheme := by
  intro hcolon
  exact ne_colon_of_mem h.isScheme hcolon rfl

theorem ofText_of_isSplit (h : IsSplit (trim s).toList scheme address) :
    ofText s = ⟨some (String.ofList (scheme.map Char.toLower)), String.ofList address⟩ := by
  rw [ofText, ofChars, ← toList_trim, split?_iff_isSplit.mpr h]
  rfl

theorem ofText_of_not_isSplit (h : ¬∃ scheme address, IsSplit (trim s).toList scheme address) :
    ofText s = ⟨.none, trim s⟩ := by
  have hnone : split? (trim s).toList = .none := by
    rw [Option.eq_none_iff_forall_ne_some]
    rintro ⟨scheme, address⟩ hsplit
    exact h ⟨scheme, address, split?_iff_isSplit.mp hsplit⟩
  rw [ofText, ofChars, ← toList_trim, hnone, String.ofList_toList]

theorem scheme_ofText_iff :
    (∃ scheme, (ofText s).scheme = some scheme) ↔
      ∃ scheme address, IsSplit (trim s).toList scheme address := by
  constructor
  · rintro ⟨scheme, hscheme⟩
    by_contra hnone
    rw [ofText_of_not_isSplit hnone] at hscheme
    cases hscheme
  · rintro ⟨scheme, address, hsplit⟩
    rw [ofText_of_isSplit hsplit]
    exact ⟨_, rfl⟩

theorem ofText_append {before after : String} (hbefore : isBlankText before = true)
    (hafter : isBlankText after = true) (s : String) : ofText (before ++ s ++ after) = ofText s := by
  rw [ofText, ← toList_trim, trim_append hbefore hafter, toList_trim, ofText]

theorem toLower_eq_or_isLetter (c : Char) : c.toLower = c ∨ isLetter c = true := by
  unfold Char.toLower
  split
  · rename_i hupper
    have hletter : c.isUpper = true := decide_eq_true hupper
    rw [isLetter_eq]
    exact .inr (Bool.or_eq_true_iff.mpr (.inl hletter))
  · exact .inl rfl

theorem isSchemeChar_of_isLetter {c : Char} (h : isLetter c = true) : isSchemeChar c = true := by
  rw [isSchemeChar, h]
  rfl

theorem isScheme_of_lower_eq {scheme' : List Char} (h : isScheme scheme = true)
    (hlower : scheme'.map Char.toLower = scheme.map Char.toLower) : isScheme scheme' = true := by
  have hsame := isScheme_lower h
  rw [lower, ← hlower] at hsame
  cases scheme' with
  | nil => cases hsame
  | cons d ds =>
    obtain ⟨hd, hds⟩ := Bool.and_eq_true_iff.mp hsame
    rw [isScheme, Bool.and_eq_true, List.all_eq_true]
    constructor
    · rcases toLower_eq_or_isLetter d with heq | hletter
      · rwa [heq] at hd
      · exact hletter
    · intro c hc
      rcases toLower_eq_or_isLetter c with heq | hletter
      · rw [← heq]
        exact List.all_eq_true.mp hds _ (List.mem_map_of_mem hc)
      · exact isSchemeChar_of_isLetter hletter

theorem ofText_of_lower_eq {scheme' : List Char} (h : IsSplit (trim s).toList scheme address)
    (hlower : scheme'.map Char.toLower = scheme.map Char.toLower) :
    ofText (String.ofList (scheme' ++ ':' :: address)) = ofText s := by
  have hscheme' := isScheme_of_lower_eq h.isScheme hlower
  have hlast : ∀ c ∈ address.getLast?, isBlank c = false := by
    apply not_blank_of_isTrimmed
    rw [← h.text_eq, toList_trim]
    exact isTrimmed_trimChars s.toList
  have hsplit : IsSplit (trim (String.ofList (scheme' ++ ':' :: address))).toList scheme' address := by
    rw [toList_trim, String.toList_ofList,
      trimChars_of_isTrimmed (isTrimmed_of_isScheme hscheme' hlast)]
    obtain ⟨hletter, hchars⟩ := isScheme_iff.mp hscheme'
    exact ⟨rfl, hletter, hchars, h.oneLine⟩
  rw [ofText_of_isSplit hsplit, hlower, ofText_of_isSplit h]

/-- What a text is read as, and that no more of it is lost than the blanks around it and the case of
its scheme. -/
theorem ofText_follows_grammar (s : String) :
    IsTrimmed (trim s).toList ∧
    (∃ before after, s = before ++ trim s ++ after ∧
      isBlankText before = true ∧ isBlankText after = true) ∧
    ((∃ scheme, (ofText s).scheme = some scheme) ↔
      ∃ scheme address, IsSplit (trim s).toList scheme address) ∧
    (∀ scheme address, IsSplit (trim s).toList scheme address →
      ':' ∉ scheme ∧
      ofText s = ⟨some (String.ofList (scheme.map Char.toLower)), String.ofList address⟩ ∧
      (ofText s).toText.toList = scheme.map Char.toLower ++ ':' :: address ∧
      ∀ scheme' before after, scheme'.map Char.toLower = scheme.map Char.toLower →
        isBlankText before = true → isBlankText after = true →
        ofText (before ++ String.ofList (scheme' ++ ':' :: address) ++ after) = ofText s) ∧
    ((¬∃ scheme address, IsSplit (trim s).toList scheme address) →
      ofText s = ⟨.none, trim s⟩ ∧ (ofText s).toText = trim s) ∧
    ofText (ofText s).toText = ofText s ∧
    (∀ before after, isBlankText before = true → isBlankText after = true →
      ofText (before ++ s ++ after) = ofText s) ∧
    ((ofText s).isEmpty = true ↔ (ofText s).address = "") := by
  refine ⟨?_, exists_append_trim s, scheme_ofText_iff, ?_, ?_, reread_ofText s, ?_,
    isEmpty_ofText_iff s⟩
  · rw [toList_trim]
    exact isTrimmed_trimChars s.toList
  · intro scheme address hsplit
    have hread := ofText_of_isSplit hsplit
    refine ⟨hsplit.not_mem_colon, hread, ?_, ?_⟩
    · rw [hread]
      simp [toText, withScheme]
    · intro scheme' before after hlower hbefore hafter
      rw [ofText_append hbefore hafter, ofText_of_lower_eq hsplit hlower]
  · intro hnone
    rw [ofText_of_not_isSplit hnone]
    exact ⟨rfl, rfl⟩
  · intro before after hbefore hafter
    exact ofText_append hbefore hafter s

theorem ofText_follows_grammar_mixed_case :
    ofText " SIP:bob:1 " = ⟨some "sip", "bob:1"⟩ ∧ ofText "\tsIp:bob:1" = ofText " SIP:bob:1 " ∧
      ofText " tel:1\n2" = ⟨.none, "tel:1\n2"⟩ := by
  have hsplit : IsSplit (trim " SIP:bob:1 ").toList "SIP".toList "bob:1".toList :=
    split?_iff_isSplit.mp (by decide)
  have hfeed : ¬∃ scheme address, IsSplit (trim " tel:1\n2").toList scheme address := by
    rintro ⟨scheme, address, hsplit⟩
    have hnone := split?_iff_isSplit.mpr hsplit
    rw [split?_eq_none (by decide)] at hnone
    cases hnone
  obtain ⟨-, hread, -, hcase⟩ :=
    (ofText_follows_grammar " SIP:bob:1 ").2.2.2.1 "SIP".toList "bob:1".toList hsplit
  exact ⟨hread, hcase "sIp".toList "\t" "" (by decide) (by decide) (by decide),
    ((ofText_follows_grammar " tel:1\n2").2.2.2.2.1 hfeed).1⟩

theorem ofText_eq_some_iff {scheme address : String} :
    ofText s = ⟨some scheme, address⟩ ↔
      ∃ written, IsSplit (trim s).toList written address.toList ∧
        scheme = String.ofList (lower written) := by
  constructor
  · intro h
    obtain ⟨written, rest, hsplit⟩ := scheme_ofText_iff.mp ⟨scheme, by rw [h]⟩
    rw [ofText_of_isSplit hsplit] at h
    obtain ⟨hscheme, haddress⟩ := Handle.mk.inj h
    refine ⟨written, ?_, (Option.some.inj hscheme).symm⟩
    rwa [← haddress, String.toList_ofList]
  · rintro ⟨written, hsplit, rfl⟩
    rw [ofText_of_isSplit hsplit, String.ofList_toList, lower]

/-- The form is asked of the scheme in either case of its letters. Of the blanks of an address only
those at its end are lost, since the ones at its start stand behind the colon. -/
theorem ofText_toText_ofParts_iff (scheme address : String) :
    ofText (ofParts scheme address).toText = ofParts scheme address ↔
      (∃ c ∈ scheme.toList.head?, c.isAlpha = true) ∧
      (∀ c ∈ scheme.toList, c.isAlphanum = true ∨ c = '+' ∨ c = '.' ∨ c = '-') ∧
      '\n' ∉ address.toList ∧ ∀ c ∈ address.toList.getLast?, isBlank c = false := by
  rw [← and_assoc, ← isScheme_iff]
  constructor
  · intro h
    -- What is read back has the case folded, so that its scheme need not be the one that was given.
    obtain ⟨written, hsplit, hlower⟩ := ofText_eq_some_iff.mp h
    have hscheme := isScheme_of_lower_eq hsplit.isScheme (String.ofList_injective hlower)
    have hlast := getLast?_address_ofText (ofParts scheme address).toText
    rw [h] at hlast
    exact ⟨hscheme, hsplit.oneLine, hlast⟩
  · rintro ⟨hscheme, honeLine, hlast⟩
    have hread := reread_ofParts hscheme hlast
    rw [if_neg honeLine] at hread
    exact hread

example : ofText (ofParts "SIP" " a:b").toText = ofParts "SIP" " a:b" := by decide

example : ofText (ofParts "a:b" "c").toText = ofParts "a" "b:c" := by decide

end CallNotice.Handle
