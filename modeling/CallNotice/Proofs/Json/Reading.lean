import CallNotice.Json.Reader
import CallNotice.Proofs.Json.Lexing

namespace CallNotice.Json

theorem apart_cons {t : Token} {ts : List Token} (ht : t.isLoose = false) (hts : Apart ts) :
    Apart (t :: ts) := by
  cases ts with
  | nil => exact List.isChain_singleton t
  | cons u us => exact List.isChain_cons_cons.mpr ⟨.inl ht, hts⟩

theorem apart_loose {t u : Token} {ts : List Token} (hu : u.isLoose = false)
    (hts : Apart (u :: ts)) : Apart (t :: u :: ts) :=
  List.isChain_cons_cons.mpr ⟨.inr hu, hts⟩

/-- What may stand behind a value: nothing, or a token that begins with a mark. -/
def Closing (rest : List Token) : Prop := Apart rest ∧ ∀ t ∈ rest.head?, t.isLoose = false

theorem closing_cons {t : Token} {ts : List Token} (ht : t.isLoose = false) (hts : Apart ts) :
    Closing (t :: ts) :=
  ⟨apart_cons ht hts, by simpa using ht⟩

theorem Closing.apart_any {rest : List Token} (h : Closing rest) (t : Token) : Apart (t :: rest) := by
  cases rest with
  | nil => exact List.isChain_singleton t
  | cons u us => exact apart_loose (h.2 u rfl) h.1

mutual

theorem apart_tokensBefore (rest : List Token) (hr : Closing rest) :
    (j : Json) → Apart (tokensBefore rest j)
  | .null => hr.apart_any _
  | .bool _ => hr.apart_any _
  | .int _ => hr.apart_any _
  | .real _ => hr.apart_any _
  | .str _ => hr.apart_any _
  | .arr items => apart_cons rfl (apart_itemTokens _ (closing_cons rfl hr.1) items)
  | .obj entries => apart_cons rfl (apart_entryTokens _ (closing_cons rfl hr.1) entries)

theorem apart_itemTokens (rest : List Token) (hr : Closing rest) :
    (items : List Json) → Apart (itemTokens rest items)
  | [] => hr.1
  | [j] => apart_tokensBefore rest hr j
  | j :: k :: js =>
    apart_tokensBefore _ (closing_cons rfl (apart_itemTokens rest hr (k :: js))) j

theorem apart_entryTokens (rest : List Token) (hr : Closing rest) :
    (entries : List (JsonText × Json)) → Apart (entryTokens rest entries)
  | [] => hr.1
  | [(_, j)] => apart_cons rfl (apart_cons rfl (apart_tokensBefore rest hr j))
  | (_, j) :: e :: es => apart_cons rfl (apart_cons rfl
      (apart_tokensBefore _ (closing_cons rfl (apart_entryTokens rest hr (e :: es))) j))

end

theorem apart_tokens (j : Json) : Apart j.tokens :=
  apart_tokensBefore [] ⟨List.isChain_nil, by simp⟩ j

namespace Reader

theorem tokensBefore_eq_cons (rest : List Token) (j : Json) :
    ∃ t ts, tokensBefore rest j = t :: ts ∧ t ≠ .closeArr := by
  cases j <;> exact ⟨_, _, rfl, by simp⟩

theorem itemTokens_cons (rest : List Token) (j : Json) (js : List Json) :
    ∃ rest', itemTokens rest (j :: js) = tokensBefore rest' j := by
  cases js <;> exact ⟨_, rfl⟩

theorem feed_first (stack : List Frame) (t : Token) (ht : t ≠ .closeArr) :
    feed (.first stack) t = feed (.value (.array [] :: stack)) t := by
  cases t with
  | closeArr => exact absurd rfl ht
  | _ => rfl

theorem foldlM_first (rest : List Token) (stack : List Frame) (j : Json) (js : List Json) :
    (itemTokens rest (j :: js)).foldlM feed (.first stack) =
      (itemTokens rest (j :: js)).foldlM feed (.value (.array [] :: stack)) := by
  obtain ⟨rest', hrest⟩ := itemTokens_cons rest j js
  obtain ⟨t, ts, hts, ht⟩ := tokensBefore_eq_cons rest' j
  rw [hrest, hts, List.foldlM_cons, List.foldlM_cons, feed_first stack t ht]

mutual

-- The open containers stay below what is read, so the induction is over any stack.
theorem foldlM_tokensBefore (rest : List Token) (stack : List Frame) : (j : Json) →
    (tokensBefore rest j).foldlM feed (.value stack) = rest.foldlM feed (.after stack j)
  | .null => rfl
  | .bool _ => rfl
  | .int _ => rfl
  | .real _ => rfl
  | .str _ => rfl
  | .arr [] => rfl
  | .arr (j :: js) =>
    (foldlM_first (.closeArr :: rest) stack j js).trans
      (foldlM_itemTokens rest stack [] (j :: js) (List.cons_ne_nil j js))
  | .obj [] => rfl
  | .obj (e :: es) => foldlM_entryTokens rest stack true [] (e :: es) (List.cons_ne_nil e es)

theorem foldlM_itemTokens (rest : List Token) (stack : List Frame) (done : List Json) :
    (items : List Json) → items ≠ [] →
    (itemTokens (.closeArr :: rest) items).foldlM feed (.value (.array done :: stack)) =
      rest.foldlM feed (.after stack (.arr (done.reverse ++ items)))
  | [], h => absurd rfl h
  | [j], _ => by
    rw [itemTokens, foldlM_tokensBefore, ← List.reverse_cons]
    rfl
  | j :: k :: js, _ => by
    have ih := foldlM_itemTokens rest stack (j :: done) (k :: js) (List.cons_ne_nil k js)
    rw [List.reverse_cons, List.append_assoc] at ih
    rw [itemTokens, foldlM_tokensBefore]
    exact ih

theorem foldlM_entryTokens (rest : List Token) (stack : List Frame) (opening : Bool)
    (done : List (JsonText × Json)) : (entries : List (JsonText × Json)) → entries ≠ [] →
    (entryTokens (.closeObj :: rest) entries).foldlM feed (.key opening done stack) =
      rest.foldlM feed (.after stack (.obj (done.reverse ++ entries)))
  | [], h => absurd rfl h
  | [(k, j)], _ => by
    have hj := foldlM_tokensBefore (.closeObj :: rest) (.object done k :: stack) j
    rw [← List.reverse_cons]
    exact hj
  | (k, j) :: e :: es, _ => by
    have ih := foldlM_entryTokens rest stack false ((k, j) :: done) (e :: es)
      (List.cons_ne_nil e es)
    have hj := foldlM_tokensBefore (.comma :: entryTokens (.closeObj :: rest) (e :: es))
      (.object done k :: stack) j
    rw [List.reverse_cons, List.append_assoc] at ih
    exact hj.trans ih

end

end Reader

theorem ofTokens?_tokens (j : Json) : ofTokens? j.tokens = some j := by
  have h := Reader.foldlM_tokensBefore [] [] j
  rw [ofTokens?, tokens, h]
  rfl

theorem tokens?_of_layout {j : Json} {cs : List Char} (h : Layout j.tokens cs) :
    tokens? cs = some j.tokens := by
  obtain ⟨l, hrun, hset⟩ := Lexer.foldlM_layout h ⟨[], .between⟩ [] rfl (apart_tokens j) (.inl rfl)
  rw [tokens?, hrun, Option.bind_some, hset, List.append_nil, Option.map_some, List.reverse_reverse]

theorem tokens?_compact (j : Json) : tokens? j.compact.toList = some j.tokens := by
  rw [compact, String.toList_ofList]
  exact tokens?_of_layout (layout_flatMap j.tokens)

theorem parse?_compact (j : Json) : parse? j.compact = some j := by
  rw [parse?, tokens?_compact, Option.bind_some, ofTokens?_tokens]

theorem isSpace_of_mem_newline {depth : Nat} {c : Char} (h : c ∈ newline depth) :
    Lexer.isSpace c = true := by
  rcases List.mem_cons.mp h with rfl | h
  · rfl
  · rw [List.eq_of_mem_replicate h]
    rfl

theorem isSpace_of_mem_gap {depth : Nat} {t next : Token} {c : Char} (h : c ∈ gap depth t next) :
    Lexer.isSpace c = true := by
  unfold gap at h
  split_ifs at h
  · cases h
  · exact isSpace_of_mem_newline h
  · exact isSpace_of_mem_newline h
  · exact isSpace_of_mem_newline h
  · rw [List.mem_singleton.mp h]
    rfl
  · cases h

theorem layout_indentedChars (depth : Nat) (ts : List Token) :
    Layout ts (indentedChars depth ts) := by
  induction ts generalizing depth with
  | nil => exact .nil
  | cons t ts ih =>
    cases ts with
    | nil =>
      have h := Layout.cons t [] (fun _ hc => absurd hc List.not_mem_nil) .nil
      rwa [List.append_nil, List.append_nil] at h
    | cons next ts => exact Layout.cons t _ (fun _ hc => isSpace_of_mem_gap hc) (ih _)

theorem parse?_indented (j : Json) : parse? j.indented = some j := by
  rw [parse?, indented, String.toList_ofList, tokens?_of_layout (layout_indentedChars 0 j.tokens),
    Option.bind_some, ofTokens?_tokens]

theorem parse?_append_space (t : String) {c : Char} (hc : Lexer.isSpace c = true) :
    parse? (t ++ String.ofList [c]) = parse? t := by
  rw [parse?, parse?, tokens?, tokens?, String.toList_append, String.toList_ofList,
    List.foldlM_append]
  cases t.toList.foldlM Lexer.step ⟨[], .between⟩ with
  | none => rfl
  | some l =>
    have hsettle := Lexer.step_space_settle l hc
    have hlast : [c].foldlM Lexer.step l = l.step c := by simp
    rw [Option.bind_eq_bind, Option.bind_some, Option.bind_some, hlast, ← hsettle]
    cases l.step c <;> rfl

end CallNotice.Json
