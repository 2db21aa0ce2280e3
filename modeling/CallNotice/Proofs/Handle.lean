import CallNotice.Handle
import CallNotice.Proofs.Text.Trimming

namespace CallNotice

namespace Handle

open Text

theorem toNat_lt_of_isSchemeChar {c : Char} (h : isSchemeChar c = true) : c.toNat < 128 := by
  simp only [isSchemeChar, isLetter, Bool.or_eq_true, Bool.and_eq_true, decide_eq_true_eq,
    Char.le_def, UInt32.le_iff_toNat_le] at h
  rcases h with ((((⟨-, h⟩ | ⟨-, h⟩) | ⟨-, h⟩) | rfl) | rfl) | rfl
  · exact Nat.lt_of_le_of_lt h (by decide)
  · exact Nat.lt_of_le_of_lt h (by decide)
  · exact Nat.lt_of_le_of_lt h (by decide)
  all_goals decide

structure LowersWell (c : Char) : Prop where
  idem : c.toLower.toLower = c.toLower
  isSchemeChar : isSchemeChar c.toLower = true
  isLetter : isLetter c = true → Handle.isLetter c.toLower = true

theorem lowersWell {c : Char} (h : isSchemeChar c = true) : LowersWell c := by
  -- A scheme is ASCII, so that these are finitely many cases.
  have hascii : ∀ n < 128, isSchemeChar (Char.ofNat n) = true →
      (Char.ofNat n).toLower.toLower = (Char.ofNat n).toLower ∧
        isSchemeChar (Char.ofNat n).toLower = true ∧
        (isLetter (Char.ofNat n) = true → isLetter (Char.ofNat n).toLower = true) := by
    decide
  have hc := hascii c.toNat (toNat_lt_of_isSchemeChar h)
  rw [Char.ofNat_toNat] at hc
  obtain ⟨hidem, hchar, hletter⟩ := hc h
  exact ⟨hidem, hchar, hletter⟩

theorem isBlank_of_isSchemeChar {c : Char} (h : isSchemeChar c = true) : isBlank c = false := by
  have hascii : ∀ n < 128, isSchemeChar (Char.ofNat n) = true → isBlank (Char.ofNat n) = false := by
    decide
  have hc := hascii c.toNat (toNat_lt_of_isSchemeChar h)
  rw [Char.ofNat_toNat] at hc
  exact hc h

theorem isSchemeChar_of_mem {c : Char} {scheme : List Char} (h : isScheme scheme = true)
    (hc : c ∈ scheme) : isSchemeChar c = true := by
  cases scheme with
  | nil => cases hc
  | cons d ds =>
    obtain ⟨hd, hds⟩ := Bool.and_eq_true_iff.mp h
    rcases List.mem_cons.mp hc with rfl | hc
    · rw [isSchemeChar, hd]
      rfl
    · exact List.all_eq_true.mp hds c hc

theorem isScheme_lower {scheme : List Char} (h : isScheme scheme = true) :
    isScheme (lower scheme) = true := by
  cases scheme with
  | nil => cases h
  | cons d ds =>
    have hall : ∀ c ∈ d :: ds, isSchemeChar c = true := fun c => isSchemeChar_of_mem h
    rw [lower, List.map_cons, isScheme, Bool.and_eq_true]
    constructor
    · exact (lowersWell (hall d List.mem_cons_self)).isLetter (Bool.and_eq_true_iff.mp h).1
    · rw [List.all_eq_true]
      intro c hc
      obtain ⟨e, he, rfl⟩ := List.mem_map.mp hc
      exact (lowersWell (hall e (List.mem_cons_of_mem d he))).isSchemeChar

theorem lower_lower {scheme : List Char} (h : isScheme scheme = true) :
    lower (lower scheme) = lower scheme := by
  rw [lower, lower, List.map_map]
  apply List.map_congr_left
  intro c hc
  exact (lowersWell (isSchemeChar_of_mem h hc)).idem

theorem ne_colon_of_mem {c : Char} {scheme : List Char} (h : isScheme scheme = true)
    (hc : c ∈ scheme) : c ≠ ':' := by
  rintro rfl
  exact absurd (isSchemeChar_of_mem h hc) (by decide)

theorem split?_eq_some_iff (cs scheme address : List Char) :
    split? cs = some (scheme, address) ↔
      cs = scheme ++ ':' :: address ∧ isScheme scheme = true ∧ '\n' ∉ address := by
  constructor
  · intro h
    have hcs := List.takeWhile_append_dropWhile (p := (· != ':')) (l := cs)
    have hdrop : cs.drop (cs.takeWhile (· != ':')).length = cs.dropWhile (· != ':') := by
      conv => lhs; arg 2; rw [← hcs]
      exact List.drop_left
    rw [split?, hdrop] at h
    cases hrest : cs.dropWhile (· != ':') with
    | nil =>
      rw [hrest] at h
      cases h
    | cons mark rest =>
      have hmark := List.head?_dropWhile_not (· != ':') cs
      rw [hrest] at hmark h hcs
      obtain rfl : mark = ':' := bne_eq_false_iff_eq.mp hmark
      obtain ⟨hok, heq⟩ := Option.ite_none_right_eq_some.mp h
      obtain ⟨rfl, rfl⟩ := Prod.mk.inj (Option.some.inj heq)
      obtain ⟨hscheme, haddress⟩ := Bool.and_eq_true_iff.mp hok
      refine ⟨hcs.symm, hscheme, ?_⟩
      intro hmem
      rw [List.contains_iff_mem.mpr hmem] at haddress
      cases haddress
  · rintro ⟨rfl, hscheme, haddress⟩
    have htake : (scheme ++ ':' :: address).takeWhile (· != ':') = scheme := by
      rw [List.takeWhile_append_of_pos fun c hc => bne_iff_ne.mpr (ne_colon_of_mem hscheme hc)]
      exact List.append_nil scheme
    have hnone : address.contains '\n' = false := by
      rw [Bool.eq_false_iff]
      exact fun h => haddress (List.contains_iff_mem.mp h)
    rw [split?, htake, List.drop_left]
    simp only [hscheme, hnone]
    rfl

theorem not_blank_of_isTrimmed {scheme address : List Char}
    (h : IsTrimmed (scheme ++ ':' :: address)) : ∀ c ∈ address.getLast?, isBlank c = false := by
  intro c hc
  apply h.2 c
  rw [List.getLast?_append, List.getLast?_cons, Option.mem_def.mp hc]
  rfl

theorem isTrimmed_of_isScheme {scheme address : List Char} (hscheme : isScheme scheme = true)
    (hlast : ∀ c ∈ address.getLast?, isBlank c = false) : IsTrimmed (scheme ++ ':' :: address) := by
  constructor
  · intro c hc
    cases scheme with
    | nil => cases hscheme
    | cons d ds =>
      obtain rfl : d = c := Option.some.inj hc
      exact isBlank_of_isSchemeChar (isSchemeChar_of_mem hscheme List.mem_cons_self)
  · intro c hc
    rw [List.getLast?_append, List.getLast?_cons] at hc
    cases haddress : address.getLast? with
    | none =>
      rw [haddress] at hc
      obtain rfl : ':' = c := Option.some.inj hc
      decide
    | some d =>
      rw [haddress] at hc
      obtain rfl : d = c := Option.some.inj hc
      exact hlast d haddress

def reread (h : Handle) : Handle := ofText h.toText

theorem reread_ofText (s : String) : (ofText s).reread = ofText s := by
  have htrimmed := isTrimmed_trimChars s.toList
  unfold reread ofText ofChars
  cases h : split? (trimChars s.toList) with
  | none =>
    simp only [toText, withScheme, String.toList_ofList, trimChars_of_isTrimmed htrimmed, h]
  | some parts =>
    obtain ⟨scheme, address⟩ := parts
    obtain ⟨hcs, hscheme, haddress⟩ := (split?_eq_some_iff _ _ _).mp h
    rw [hcs] at htrimmed
    have hagain : split? (lower scheme ++ ':' :: address) = some (lower scheme, address) :=
      (split?_eq_some_iff _ _ _).mpr ⟨rfl, isScheme_lower hscheme, haddress⟩
    have htext : (withScheme (some (String.ofList (lower scheme))) (String.ofList address)).toList =
        lower scheme ++ ':' :: address := by
      simp [withScheme]
    have htrimmed' := isTrimmed_of_isScheme (isScheme_lower hscheme)
      (not_blank_of_isTrimmed htrimmed)
    simp only [toText, htext, trimChars_of_isTrimmed htrimmed', hagain, lower_lower hscheme]

theorem split?_eq_none {cs : List Char} (h : '\n' ∈ cs) : split? cs = .none := by
  rw [Option.eq_none_iff_forall_ne_some]
  rintro ⟨scheme, address⟩ hsplit
  obtain ⟨rfl, hscheme, haddress⟩ := (split?_eq_some_iff _ _ _).mp hsplit
  rcases List.mem_append.mp h with h | h
  · exact absurd (isSchemeChar_of_mem hscheme h) (by decide)
  · rcases List.mem_cons.mp h with heq | h
    · exact absurd heq (by decide)
    · exact haddress h

theorem getLast?_address_ofText (s : String) :
    ∀ c ∈ (ofText s).address.toList.getLast?, isBlank c = false := by
  have htrimmed := isTrimmed_trimChars s.toList
  unfold ofText ofChars
  cases h : split? (trimChars s.toList) with
  | none =>
    rw [String.toList_ofList]
    exact htrimmed.2
  | some parts =>
    obtain ⟨scheme, address⟩ := parts
    obtain ⟨hcs, -, -⟩ := (split?_eq_some_iff _ _ _).mp h
    rw [hcs] at htrimmed
    rw [String.toList_ofList]
    exact not_blank_of_isTrimmed htrimmed

theorem isEmpty_ofText (s : String) :
    (ofText s).isEmpty = decide ((ofText s).address.length = 0) := by
  have hlast := getLast?_address_ofText s
  rw [isEmpty, isBlankText, ← String.length_toList]
  rcases List.eq_nil_or_concat (ofText s).address.toList with hnil | ⟨cs, c, hcs⟩
  · rw [hnil]
    rfl
  · rw [hcs, List.concat_eq_append] at hlast ⊢
    have hc : isBlank c = false := hlast c (by simp)
    simp [hc]

theorem isEmpty_ofText_iff (s : String) :
    (ofText s).isEmpty = true ↔ (ofText s).address = "" := by
  rw [isEmpty_ofText, decide_eq_true_iff, String.length_eq_zero_iff]

theorem reread_ofParts {scheme address : String} (hscheme : isScheme scheme.toList = true)
    (hlast : ∀ c ∈ address.toList.getLast?, isBlank c = false) :
    (ofParts scheme address).reread =
      if '\n' ∈ address.toList then ⟨.none, (ofParts scheme address).toText⟩
      else ofParts scheme address := by
  have htext : (ofParts scheme address).toText.toList =
      lower scheme.toList ++ ':' :: address.toList := by
    simp [ofParts, toText, withScheme]
  rw [reread, ofText, htext, trimChars_of_isTrimmed (isTrimmed_of_isScheme (isScheme_lower hscheme) hlast), ofChars]
  by_cases h : '\n' ∈ address.toList
  · have hmem : '\n' ∈ lower scheme.toList ++ ':' :: address.toList :=
      List.mem_append_right _ (List.mem_cons_of_mem _ h)
    rw [split?_eq_none hmem, if_pos h, ← htext, String.ofList_toList]
  · have hsplit : split? (lower scheme.toList ++ ':' :: address.toList) =
        some (lower scheme.toList, address.toList) :=
      (split?_eq_some_iff _ _ _).mpr ⟨rfl, isScheme_lower hscheme, h⟩
    rw [hsplit, if_neg h]
    simp only [lower_lower hscheme, String.ofList_toList, ofParts]

end Handle

end CallNotice
