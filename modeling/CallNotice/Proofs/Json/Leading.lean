import CallNotice.Proofs.Json.Reading

namespace CallNotice.Json

namespace Lexer

open Content

theorem begin_fresh {found : List Token} {c : Char}
    (h : begin found c = some ⟨[], .between⟩) : found = [] ∧ isSpace c = true := by
  unfold begin at h
  split_ifs at h with hspace
  case pos =>
    simp only [Option.some.injEq, mk.injEq, and_true] at h
    exact ⟨h, hspace⟩
  all_goals
    simp only [Option.some.injEq, mk.injEq, reduceCtorEq, and_false, Option.map_eq_some_iff,
      false_and, exists_false] at h

theorem step_fresh {l : Lexer} {c : Char} (h : l.step c = some ⟨[], .between⟩) :
    l = ⟨[], .between⟩ ∧ isSpace c = true := by
  -- A word or number that has just ended leaves its token behind.
  have hsettled (t : Option Token) : (t.map (· :: l.found)).bind (begin · c) ≠ some ⟨[], .between⟩ := by
    cases t with
    | none => simp
    | some t => exact fun hb => absurd (begin_fresh hb).1 (List.cons_ne_nil t l.found)
  obtain ⟨found, scan⟩ := l
  cases scan with
  | between =>
    obtain ⟨rfl, hc⟩ := begin_fresh h
    exact ⟨rfl, hc⟩
  | word read =>
    simp only [step] at h
    split_ifs at h
    · simp at h
    · exact absurd h (hsettled (word? read))
  | number n =>
    simp only [step] at h
    split at h
    · simp at h
    · exact absurd h (hsettled n.token?)
  | string s =>
    simp only [step] at h
    split_ifs at h <;> simp at h

theorem foldlM_fresh {cs : List Char} {l : Lexer} (h : cs.foldlM step l = some ⟨[], .between⟩) :
    l = ⟨[], .between⟩ ∧ ∀ c ∈ cs, isSpace c = true := by
  induction cs generalizing l with
  | nil => exact ⟨Option.some.inj h, by simp⟩
  | cons c cs ih =>
    rw [List.foldlM_cons, Option.bind_eq_bind, Option.bind_eq_some_iff] at h
    obtain ⟨l₁, hstep, hrest⟩ := h
    obtain ⟨rfl, hcs⟩ := ih hrest
    obtain ⟨hl, hc⟩ := step_fresh hstep
    exact ⟨hl, by simpa [hc] using hcs⟩

end Lexer

namespace Reader

theorem feed_ne_start (r : Reader) (t : Token) : feed r t ≠ some (.value []) := by
  intro h
  cases r with
  | value stack => cases t <;> simp [feed, feedValue, scalar?] at h
  | first stack => cases t <;> simp [feed, feedValue, scalar?] at h
  | key opening done stack => cases opening <;> cases t <;> simp [feed] at h
  | colon done key stack => cases t <;> simp [feed] at h
  | after stack value =>
    cases stack with
    | nil => cases t <;> simp [feed] at h
    | cons frame stack => cases frame <;> cases t <;> simp [feed] at h

theorem foldlM_ne_start {ts : List Token} (hts : ts ≠ []) (r : Reader) :
    ts.foldlM feed r ≠ some (.value []) := by
  obtain ⟨us, t, rfl⟩ := (List.eq_nil_or_concat ts).resolve_left hts
  rw [List.concat_eq_append]
  intro h
  rw [List.foldlM_append, Option.bind_eq_bind, Option.bind_eq_some_iff] at h
  obtain ⟨r', -, hlast⟩ := h
  rw [List.foldlM_cons, Option.bind_eq_bind, Option.bind_eq_some_iff] at hlast
  obtain ⟨r'', hfeed, hnil⟩ := hlast
  obtain rfl : r'' = .value [] := Option.some.inj hnil
  exact feed_ne_start r' t hfeed

theorem finished?_obj (r : Reader) (entries : List (JsonText × Json)) (hr : r ≠ .value []) :
    ((tokens (.obj entries)).foldlM feed r).bind finished? = none := by
  -- Inside an open container the object is only a part of the value.
  have hvalue (stack : List Frame) (hstack : stack ≠ []) :
      ((tokens (.obj entries)).foldlM feed (.value stack)).bind finished? = none := by
    rw [tokens, foldlM_tokensBefore]
    cases stack with
    | nil => exact absurd rfl hstack
    | cons frame stack => rfl
  cases r with
  | value stack => exact hvalue stack fun h => hr (by rw [h])
  | first stack =>
    rw [tokens, tokensBefore, List.foldlM_cons, feed_first stack .openObj (by simp),
      ← List.foldlM_cons]
    exact hvalue (.array [] :: stack) (List.cons_ne_nil _ _)
  | key opening done stack => cases opening <;> rfl
  | colon done key stack => rfl
  | after stack value =>
    cases stack with
    | nil => rfl
    | cons frame stack => cases frame <;> rfl

end Reader

theorem ofTokens?_append_obj {ts : List Token} (hts : ts ≠ []) (entries : List (JsonText × Json)) :
    ofTokens? (ts ++ tokens (.obj entries)) = none := by
  rw [ofTokens?, List.foldlM_append, Option.bind_eq_bind, Option.bind_assoc]
  cases h : ts.foldlM Reader.feed (.value []) with
  | none => rfl
  | some r =>
    refine Reader.finished?_obj r entries ?_
    rintro rfl
    exact Reader.foldlM_ne_start hts _ h

def IsPlainKey (key : String) : Prop :=
  (∀ c ∈ key.toList, Lexer.isLetter c = true) ∧ key ≠ "" ∧ Lexer.word? key.toList.reverse = none

namespace Lexer

open Content

theorem ne_of_isLetter {c d : Char} (hc : isLetter c = true) (hd : isLetter d = false) : c ≠ d := by
  rintro rfl
  rw [hd] at hc
  exact absurd hc (by decide)

theorem isDigit_of_isLetter {c : Char} (hc : isLetter c = true) : isDigit c = false := by
  simp only [isLetter, Bool.and_eq_true, decide_eq_true_eq, Char.le_def, UInt32.le_iff_toNat_le] at hc
  simp only [isDigit, Bool.and_eq_false_iff, decide_eq_false_iff_not, Char.le_def,
    UInt32.le_iff_toNat_le]
  have h₁ : ('a' : Char).val.toNat = 97 := rfl
  have h₂ : ('9' : Char).val.toNat = 57 := rfl
  omega

theorem begin_letter (found : List Token) {c : Char} (hc : isLetter c = true) :
    begin found c = some ⟨found, .word [c]⟩ := by
  have hspace : isSpace c = false := by
    simp only [isSpace, ne_of_isLetter hc (show isLetter ' ' = false by decide),
      ne_of_isLetter hc (show isLetter '\t' = false by decide),
      ne_of_isLetter hc (show isLetter '\n' = false by decide),
      ne_of_isLetter hc (show isLetter '\r' = false by decide), decide_false, Bool.or_self]
  have hquote : c ≠ '"' := ne_of_isLetter hc (by decide)
  have hminus : c ≠ '-' := ne_of_isLetter hc (by decide)
  have hzero : c ≠ '0' := ne_of_isLetter hc (by decide)
  simp [begin, hspace, hquote, hminus, hzero, isDigit_of_isLetter hc, hc]

theorem foldlM_letters (found : List Token) (cs read : List Char)
    (h : ∀ c ∈ cs, isLetter c = true) :
    cs.foldlM step ⟨found, .word read⟩ = some ⟨found, .word (cs.reverse ++ read)⟩ := by
  induction cs generalizing read with
  | nil => rfl
  | cons c cs ih =>
    have hstep : step ⟨found, .word read⟩ c = some ⟨found, .word (c :: read)⟩ := by
      simp only [step, h c List.mem_cons_self, if_true]
    rw [List.foldlM_cons, hstep, Option.bind_eq_bind, Option.bind_some,
      ih (c :: read) fun x hx => h x (List.mem_cons_of_mem c hx)]
    simp

theorem foldlM_bare_key (found : List Token) (key : String) (hkey : IsPlainKey key)
    (rest : List Char) :
    (key.toList ++ '"' :: rest).foldlM step ⟨found, .between⟩ = none := by
  obtain ⟨hletters, hne, hword⟩ := hkey
  cases hk : key.toList with
  | nil => exact absurd (String.toList_eq_nil_iff.mp hk) hne
  | cons c cs =>
    rw [hk] at hletters hword
    have hbegin : step ⟨found, .between⟩ c = some ⟨found, .word [c]⟩ :=
      begin_letter found (hletters c List.mem_cons_self)
    have hcs := foldlM_letters found cs [c] fun x hx => hletters x (List.mem_cons_of_mem c hx)
    rw [← List.reverse_cons] at hcs
    have hquote : step ⟨found, .word (c :: cs).reverse⟩ '"' = none := by
      simp only [step, settle, hword, Option.map_none, Option.bind_none]
      rfl
    rw [List.cons_append, List.foldlM_cons, hbegin, Option.bind_eq_bind, Option.bind_some,
      List.foldlM_append, hcs, Option.bind_eq_bind, Option.bind_some, List.foldlM_cons, hquote]
    rfl

theorem foldlM_key_unsettled (l : Lexer) (hl : l.settle = none) (key : String)
    (hkey : IsPlainKey key) (rest : List Char) :
    ('\x7b' :: '"' :: (key.toList ++ '"' :: rest)).foldlM step l = none := by
  obtain ⟨found, scan⟩ := l
  cases scan with
  | between => simp [settle] at hl
  | word read =>
    have hstep : step ⟨found, .word read⟩ '\x7b' = none :=
      congrArg (Option.bind · (begin · '\x7b')) hl
    rw [List.foldlM_cons, hstep]
    rfl
  | number n =>
    have hstep : step ⟨found, .number n⟩ '\x7b' = none :=
      congrArg (Option.bind · (begin · '\x7b')) hl
    rw [List.foldlM_cons, hstep]
    rfl
  | string s =>
    -- The quote before the key closes the string, so the key stands outside of it.
    obtain ⟨read, sound, half, escape⟩ := s
    rcases escape with _ | _ | ⟨seen, value⟩
    · exact foldlM_bare_key _ key hkey rest
    · rfl
    · rfl

theorem settle_eq_nil {l : Lexer} (hl : l.settle = some []) : l = ⟨[], .between⟩ := by
  obtain ⟨found, scan⟩ := l
  cases scan with
  | between =>
    obtain rfl : found = [] := Option.some.inj hl
    rfl
  | word read => simp [settle] at hl
  | number n => simp [settle] at hl
  | string s => simp [settle] at hl

theorem escapedChar_letter {c : Char} (hc : isLetter c = true) : escapedChar c = [c] := by
  have hprintable : ¬c.toNat < 0x20 := by
    simp only [isLetter, Bool.and_eq_true, decide_eq_true_eq, Char.le_def,
      UInt32.le_iff_toNat_le] at hc
    have h₁ : ('a' : Char).val.toNat = 97 := rfl
    change ¬c.val.toNat < 0x20
    omega
  simp only [escapedChar, ne_of_isLetter hc (show isLetter '"' = false by decide),
    ne_of_isLetter hc (show isLetter '\\' = false by decide),
    ne_of_isLetter hc (show isLetter '\x08' = false by decide),
    ne_of_isLetter hc (show isLetter '\x0c' = false by decide),
    ne_of_isLetter hc (show isLetter '\n' = false by decide),
    ne_of_isLetter hc (show isLetter '\r' = false by decide),
    ne_of_isLetter hc (show isLetter '\t' = false by decide), hprintable, if_false]

theorem flatMap_escapedChar_letters (cs : List Char) (h : ∀ c ∈ cs, isLetter c = true) :
    cs.flatMap escapedChar = cs := by
  induction cs with
  | nil => rfl
  | cons c cs ih =>
    rw [List.flatMap_cons, escapedChar_letter (h c List.mem_cons_self),
      ih fun x hx => h x (List.mem_cons_of_mem c hx)]
    rfl

end Lexer

theorem toList_compact_obj (key : String) (hkey : IsPlainKey key) (j : Json)
    (entries : List (JsonText × Json)) :
    ∃ rest, (Json.obj ((some key, j) :: entries)).compact.toList =
      '\x7b' :: '"' :: (key.toList ++ '"' :: rest) := by
  obtain ⟨ts, hts⟩ : ∃ ts, tokens (.obj ((some key, j) :: entries)) =
      .openObj :: .str (some key) :: ts := by
    cases entries <;> exact ⟨_, rfl⟩
  refine ⟨ts.flatMap Token.chars, ?_⟩
  rw [compact, String.toList_ofList, hts, List.flatMap_cons, List.flatMap_cons, Token.chars,
    Token.chars, stringChars, Lexer.flatMap_escapedChar_letters _ hkey.1]
  simp

theorem parse?_append_compact (t : String) (ht : ∀ c ∈ t.toList, Lexer.isSpace c = true) (j : Json) :
    parse? (t ++ j.compact) = some j := by
  have h := tokens?_compact j
  rw [tokens?] at h
  rw [parse?, String.toList_append, tokens?, List.foldlM_append, Lexer.foldlM_blanks [] _ ht,
    Option.bind_eq_bind, Option.bind_some, h, Option.bind_some, ofTokens?_tokens]

theorem parse?_append_obj (t : String) (ht : ¬∀ c ∈ t.toList, Lexer.isSpace c = true) (key : String)
    (hkey : IsPlainKey key) (j : Json) (entries : List (JsonText × Json)) :
    parse? (t ++ (Json.obj ((some key, j) :: entries)).compact) = none := by
  rw [parse?, String.toList_append, tokens?, List.foldlM_append]
  cases hl : t.toList.foldlM Lexer.step ⟨[], .between⟩ with
  | none => rfl
  | some l =>
    rw [Option.bind_eq_bind, Option.bind_some]
    cases hset : l.settle with
    | some found =>
      -- The text is made of whole tokens, so that the object is not all there is.
      have hfound : found ≠ [] := by
        rintro rfl
        rw [Lexer.settle_eq_nil hset] at hl
        exact ht (Lexer.foldlM_fresh hl).2
      obtain ⟨l', hrun, hset'⟩ := Lexer.foldlM_tokens _ l found hset
        (apart_tokens (.obj ((some key, j) :: entries)))
        (.inr (by simp [tokens, tokensBefore, Token.isLoose]))
      rw [compact, String.toList_ofList, hrun, Option.bind_some, hset', Option.map_some,
        Option.bind_some, List.reverse_append, List.reverse_reverse]
      exact ofTokens?_append_obj (by simpa using hfound) _
    | none =>
      obtain ⟨rest, hrest⟩ := toList_compact_obj key hkey j entries
      rw [hrest, Lexer.foldlM_key_unsettled l hset key hkey rest]
      rfl

end CallNotice.Json
