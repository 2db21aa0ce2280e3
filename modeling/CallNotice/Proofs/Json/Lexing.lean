import CallNotice.Proofs.Json.Escapes
import CallNotice.Proofs.Json.Numerals
import Mathlib.Data.List.Chain

namespace CallNotice.Json

/-- A token that only ends where the next one begins. -/
def Token.isLoose : Token → Bool
  | .null | .bool _ | .int _ | .real _ => true
  | _ => false

namespace Lexer

open Content

def isBreak (c : Char) : Bool :=
  !isLetter c && !isDigit c && c ≠ '.' && c ≠ 'E' && c ≠ '+' && c ≠ '-'

theorem step_break (l : Lexer) (found : List Token) (c : Char) (hl : l.settle = some found)
    (hc : isBreak c = true) : l.step c = begin found c := by
  simp only [isBreak, Bool.and_eq_true, Bool.not_eq_true', decide_eq_true_eq] at hc
  obtain ⟨⟨⟨⟨⟨hletter, hdigit⟩, hpoint⟩, hexp⟩, hplus⟩, hminus⟩ := hc
  have he : c ≠ 'e' := by rintro rfl; exact absurd hletter (by decide)
  obtain ⟨found', scan⟩ := l
  cases scan with
  | between =>
    obtain rfl : found' = found := by simpa [settle] using hl
    rfl
  | word read => simp only [step, hletter, Bool.false_eq_true, if_false, hl, Option.bind_some]
  | number n =>
    have hn : numberStep n c = none := by
      simp [numberStep, hdigit, hpoint, hexp, he, hplus, hminus]
    simp only [step, hn, hl, Option.bind_some]
  | string s => simp [settle] at hl

theorem isBreak_of_isSpace {c : Char} (h : isSpace c = true) : isBreak c = true := by
  simp only [isSpace, Bool.or_eq_true, decide_eq_true_eq] at h
  rcases h with ((rfl | rfl) | rfl) | rfl <;> decide

theorem foldlM_blanks (found : List Token) (cs : List Char) (h : ∀ c ∈ cs, isSpace c = true) :
    cs.foldlM step ⟨found, .between⟩ = some ⟨found, .between⟩ := by
  induction cs with
  | nil => rfl
  | cons c cs ih =>
    have hstep : step ⟨found, .between⟩ c = some ⟨found, .between⟩ := by
      simp only [step, begin, h c List.mem_cons_self, if_true]
    rw [List.foldlM_cons, hstep]
    apply ih
    intro x hx
    exact h x (List.mem_cons_of_mem c hx)

theorem step_space_settle (l : Lexer) {c : Char} (hc : isSpace c = true) :
    (l.step c).bind settle = l.settle := by
  cases hl : l.settle with
  | some found =>
    rw [step_break l found c hl (isBreak_of_isSpace hc), begin, if_pos hc]
    rfl
  | none =>
    have hchar : isLetter c = false ∧ isDigit c = false ∧ c ≠ '.' ∧ c ≠ 'e' ∧ c ≠ 'E' ∧
        c ≠ '+' ∧ c ≠ '-' ∧ c ≠ '"' := by
      simp only [isSpace, Bool.or_eq_true, decide_eq_true_eq] at hc
      rcases hc with ((rfl | rfl) | rfl) | rfl <;> decide
    obtain ⟨hletter, hdigit, hpoint, he, hexp, hplus, hminus, hquote⟩ := hchar
    obtain ⟨found, scan⟩ := l
    cases scan with
    | between => cases hl
    | word read => simp only [step, hletter, Bool.false_eq_true, if_false, hl, Option.bind_none]
    | number n =>
      have hn : numberStep n c = none := by
        simp [numberStep, hdigit, hpoint, he, hexp, hplus, hminus]
      simp only [step, hn, hl, Option.bind_none]
    | string s =>
      have hcloses : s.closes c = false := by simp [closes, hquote]
      simp only [step, hcloses, Bool.false_eq_true, if_false]
      cases s.step c <;> rfl

theorem foldlM_gap (l : Lexer) (found : List Token) (hl : l.settle = some found) (cs : List Char)
    (h : ∀ c ∈ cs, isSpace c = true) :
    ∃ l', cs.foldlM step l = some l' ∧ l'.settle = some found ∧ (l' = l ∨ l'.scan = .between) := by
  cases cs with
  | nil => exact ⟨l, rfl, hl, .inl rfl⟩
  | cons c cs =>
    have hc := h c List.mem_cons_self
    have hfirst : step l c = some ⟨found, .between⟩ := by
      rw [step_break l found c hl (isBreak_of_isSpace hc), begin, if_pos hc]
    refine ⟨⟨found, .between⟩, ?_, rfl, .inr rfl⟩
    rw [List.foldlM_cons, hfirst]
    apply foldlM_blanks
    intro x hx
    exact h x (List.mem_cons_of_mem c hx)

theorem foldlM_mark (l : Lexer) (found : List Token) (c : Char) (t : Token)
    (hl : l.settle = some found) (hc : isBreak c = true) (ht : begin found c = some ⟨t :: found, .between⟩) :
    [c].foldlM step l = some ⟨t :: found, .between⟩ := by
  rw [List.foldlM_cons, step_break l found c hl hc, ht]
  rfl

theorem foldlM_str (l : Lexer) (found : List Token) (t : JsonText) (hl : l.settle = some found) :
    (Token.str t).chars.foldlM step l = some ⟨.str t :: found, .between⟩ := by
  have hopen : step l '"' = some ⟨found, .string .empty⟩ :=
    (step_break l found '"' hl (by decide)).trans rfl
  cases t with
  | none => rw [Token.chars, List.foldlM_cons, hopen]; rfl
  | some s =>
    have hinside := foldlM_escaped found s.toList []
    rw [List.append_nil] at hinside
    have hclose : step ⟨found, .string (inside s.toList.reverse)⟩ '"' =
        some ⟨.str (some s) :: found, .between⟩ := by
      rw [← text_inside s]; rfl
    have hempty : Content.empty = inside [] := rfl
    rw [Token.chars, stringChars, List.cons_append, List.foldlM_cons, hopen, Option.bind_eq_bind,
      Option.bind_some, List.foldlM_append, hempty, hinside, Option.bind_eq_bind, Option.bind_some,
      List.foldlM_cons, hclose]
    rfl

theorem foldlM_token (t : Token) (l : Lexer) (found : List Token) (hl : l.settle = some found)
    (ht : l.scan = .between ∨ t.isLoose = false) :
    ∃ l', t.chars.foldlM step l = some l' ∧ l'.settle = some (t :: found) ∧
      (t.isLoose = false → l'.scan = .between) := by
  by_cases hloose : t.isLoose = true
  · have hscan : l.scan = .between := ht.resolve_right (by simp [hloose])
    obtain ⟨found', scan⟩ := l
    obtain rfl : scan = .between := hscan
    obtain rfl : found' = found := by simpa [settle] using hl
    have hn : ∃ l', t.chars.foldlM step ⟨found', .between⟩ = some l' ∧
        l'.settle = some (t :: found') := by
      cases t with
      | null => exact ⟨_, rfl, rfl⟩
      | bool b => cases b <;> exact ⟨_, rfl, rfl⟩
      | int i => exact foldlM_int found' i
      | real finite => cases finite <;> exact ⟨_, rfl, rfl⟩
      | _ => simp [Token.isLoose] at hloose
    obtain ⟨l', hl', hs⟩ := hn
    exact ⟨l', hl', hs, fun h => absurd hloose (by simp [h])⟩
  · have hm : t.chars.foldlM step l = some ⟨t :: found, .between⟩ := by
      cases t with
      | openArr => exact foldlM_mark l found '[' .openArr hl (by decide) rfl
      | closeArr => exact foldlM_mark l found ']' .closeArr hl (by decide) rfl
      | openObj => exact foldlM_mark l found '\x7b' .openObj hl (by decide) rfl
      | closeObj => exact foldlM_mark l found '\x7d' .closeObj hl (by decide) rfl
      | comma => exact foldlM_mark l found ',' .comma hl (by decide) rfl
      | colon => exact foldlM_mark l found ':' .colon hl (by decide) rfl
      | str t => exact foldlM_str l found t hl
      | _ => exact absurd rfl hloose
    exact ⟨_, hm, rfl, fun _ => rfl⟩

end Lexer

def Apart (ts : List Token) : Prop :=
  ts.IsChain fun t u => t.isLoose = false ∨ u.isLoose = false

/-- The tokens written one after the other, each with some blanks behind it. -/
inductive Layout : List Token → List Char → Prop
  | nil : Layout [] []
  | cons {ts : List Token} {cs : List Char} (t : Token) (blanks : List Char)
    (hblanks : ∀ c ∈ blanks, Lexer.isSpace c = true) (h : Layout ts cs) :
    Layout (t :: ts) (t.chars ++ blanks ++ cs)

theorem layout_flatMap (ts : List Token) : Layout ts (ts.flatMap Token.chars) := by
  induction ts with
  | nil => exact .nil
  | cons t ts ih =>
    have h := Layout.cons t [] (fun _ hc => absurd hc List.not_mem_nil) ih
    rwa [List.append_nil] at h

namespace Lexer

theorem foldlM_layout {ts : List Token} {cs : List Char} (h : Layout ts cs) (l : Lexer)
    (found : List Token) (hl : l.settle = some found) (hts : Apart ts)
    (hfirst : l.scan = .between ∨ ∀ t ∈ ts.head?, t.isLoose = false) :
    ∃ l', cs.foldlM step l = some l' ∧ l'.settle = some (ts.reverse ++ found) := by
  induction h generalizing l found with
  | nil => exact ⟨l, rfl, hl⟩
  | @cons ts cs t blanks hblanks _ ih =>
    obtain ⟨l₁, hrun, hset, hscan⟩ :=
      foldlM_token t l found hl (hfirst.imp_right fun h => h t rfl)
    obtain ⟨l₂, hgap, hset₂, hbetween⟩ := foldlM_gap l₁ (t :: found) hset blanks hblanks
    have hnext : l₂.scan = .between ∨ ∀ u ∈ ts.head?, u.isLoose = false := by
      cases ts with
      | nil => exact .inr (by simp)
      | cons u us =>
        rcases hbetween with rfl | hbetween
        · rcases (List.isChain_cons_cons.mp hts).1 with h | h
          · exact .inl (hscan h)
          · exact .inr (by simpa using h)
        · exact .inl hbetween
    obtain ⟨l₃, hrest, hset₃⟩ := ih l₂ (t :: found) hset₂ hts.tail hnext
    refine ⟨l₃, ?_, by simpa using hset₃⟩
    rw [List.foldlM_append, List.foldlM_append, hrun]
    exact (congrArg (· >>= _) hgap).trans hrest

theorem foldlM_tokens (ts : List Token) (l : Lexer) (found : List Token)
    (hl : l.settle = some found) (hts : Apart ts)
    (hfirst : l.scan = .between ∨ ∀ t ∈ ts.head?, t.isLoose = false) :
    ∃ l', (ts.flatMap Token.chars).foldlM step l = some l' ∧
      l'.settle = some (ts.reverse ++ found) :=
  foldlM_layout (layout_flatMap ts) l found hl hts hfirst

end Lexer

end CallNotice.Json
