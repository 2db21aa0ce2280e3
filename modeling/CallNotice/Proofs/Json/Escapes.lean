import CallNotice.Json.Printer
import Mathlib.Tactic.SplitIfs

namespace CallNotice.Json

namespace Content

theorem hexDigit?_digitChar : ∀ n < 16, hexDigit? n.digitChar = some n := by decide

def inside (read : List Char) : Content := ⟨read, true, none, none⟩

theorem text_inside (s : String) : (inside s.toList.reverse).text = some s := by
  simp [inside, text]

theorem pushUnit_control (s : Content) (c : Char) (hc : c.toNat < 0x20) :
    s.pushUnit c.toNat = s.push c := by
  have hlow : isLow c.toNat = false := by simp only [isLow, Bool.and_eq_false_iff]; grind
  have hhigh : isHigh c.toNat = false := by simp only [isHigh, Bool.and_eq_false_iff]; grind
  simp only [pushUnit, hlow, hhigh, Bool.false_eq_true, if_false, Char.ofNat_toNat]

end Content

namespace Lexer

open Content

theorem step_string (found : List Token) (s t : Content) (c : Char) (hc : s.closes c = false)
    (ht : s.step c = some t) : step ⟨found, .string s⟩ c = some ⟨found, .string t⟩ := by
  simp only [step, hc, Bool.false_eq_true, if_false, ht, Option.map_some]

theorem step_hex (found : List Token) (s : Content) (seen value d : Nat) (c : Char)
    (hs : s.escape = some (some (seen, value))) (hd : hexDigit? c = some d) :
    step ⟨found, .string s⟩ c = some ⟨found, .string
      (if seen = 3 then s.pushUnit (value * 16 + d)
      else { s with escape := some (some (seen + 1, value * 16 + d)) })⟩ := by
  apply step_string
  · simp [closes, hs]
  · simp [Content.step, hs, hd]

theorem foldlM_hexPair (found : List Token) (read : List Char) (c : Char) (hc : c.toNat < 0x20) :
    (['\\', 'u', '0', '0'] ++ hexPair c.toNat).foldlM step ⟨found, .string (inside read)⟩ =
      some ⟨found, .string (inside (c :: read))⟩ := by
  let seen (n value : Nat) : Content := ⟨read, true, none, some (some (n, value))⟩
  have hfour : (['\\', 'u', '0', '0'] : List Char).foldlM step ⟨found, .string (inside read)⟩ =
      some ⟨found, .string (seen 2 0)⟩ := rfl
  have hhigh : step ⟨found, .string (seen 2 0)⟩ (c.toNat / 16).digitChar =
      some ⟨found, .string (seen 3 (c.toNat / 16))⟩ := by
    rw [step_hex found (seen 2 0) 2 0 _ _ rfl (hexDigit?_digitChar _ (by omega))]
    simp [seen]
  have hlow : step ⟨found, .string (seen 3 (c.toNat / 16))⟩ (c.toNat % 16).digitChar =
      some ⟨found, .string (inside (c :: read))⟩ := by
    rw [step_hex found (seen 3 (c.toNat / 16)) 3 _ _ _ rfl (hexDigit?_digitChar _ (by omega)),
      if_pos rfl, Nat.div_add_mod', pushUnit_control _ c hc]
    rfl
  rw [List.foldlM_append, hfour]
  simp only [hexPair, Option.bind_eq_bind, Option.bind_some, List.foldlM_cons, hhigh, hlow,
    List.foldlM_nil, Option.pure_def]

theorem foldlM_escapedChar (found : List Token) (read : List Char) (c : Char) :
    (escapedChar c).foldlM step ⟨found, .string (inside read)⟩ =
      some ⟨found, .string (inside (c :: read))⟩ := by
  unfold escapedChar
  split_ifs with h₁ h₂ h₃ h₄ h₅ h₆ h₇ h₈
  case pos => subst h₁; rfl
  case pos => subst h₂; rfl
  case pos => subst h₃; rfl
  case pos => subst h₄; rfl
  case pos => subst h₅; rfl
  case pos => subst h₆; rfl
  case pos => subst h₇; rfl
  case pos => exact foldlM_hexPair found read c h₈
  case neg =>
    have hplain : step ⟨found, .string (inside read)⟩ c =
        some ⟨found, .string (inside (c :: read))⟩ := by
      apply step_string
      · simp [closes, h₁]
      · simp [Content.step, inside, h₂, h₈, push]
    simp only [List.foldlM_cons, hplain, Option.bind_eq_bind, Option.bind_some, List.foldlM_nil,
      Option.pure_def]

theorem foldlM_escaped (found : List Token) (cs read : List Char) :
    (cs.flatMap escapedChar).foldlM step ⟨found, .string (inside read)⟩ =
      some ⟨found, .string (inside (cs.reverse ++ read))⟩ := by
  induction cs generalizing read with
  | nil => rfl
  | cons c cs ih =>
    rw [List.flatMap_cons, List.foldlM_append, foldlM_escapedChar, Option.bind_eq_bind,
      Option.bind_some, ih]
    simp

end Lexer

end CallNotice.Json
