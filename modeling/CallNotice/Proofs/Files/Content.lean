import CallNotice.Files.Journal
import CallNotice.Proofs.Json.Leading
import CallNotice.Proofs.Json.OneLine
import CallNotice.Proofs.Text.Encoding
import CallNotice.Proofs.Text.Lines

namespace CallNotice.Journal

open Text Json

variable {α : Type} (decode : Json → Option α)

def lineValue? (bytes : List UInt8) : Option α :=
  (String.fromUTF8? ⟨bytes.toArray⟩).bind (read? decode)

def tail (bytes : ByteArray) : List UInt8 := tornLine 10 bytes.data.toList

def ended (bytes : ByteArray) : List α :=
  (endedLines 10 13 bytes.data.toList).filterMap (lineValue? decode)

/-- Only spaces, tabs and carriage returns stand behind the last line feed. -/
def EndsBlank (bytes : ByteArray) : Prop := ∀ b ∈ tail bytes, b = 9 ∨ b = 13 ∨ b = 32

instance (bytes : ByteArray) : Decidable (EndsBlank bytes) :=
  decidable_of_iff ((tail bytes).all fun b => b == 9 || b == 13 || b == 32) (by
    simp [EndsBlank, or_assoc])

theorem ofContent_eq_filterMap (bytes : ByteArray) :
    ofContent decode bytes =
      (linesBy 10 13 bytes.data.toList).filterMap (lineValue? decode) := by
  rw [ofContent, readableLines, List.filterMap_filterMap]
  rfl

theorem ofContent_eq (bytes : ByteArray) :
    ofContent decode bytes = ended decode bytes ++
      if tail bytes = [] then [] else (lineValue? decode (tail bytes)).toList := by
  rw [ofContent_eq_filterMap, linesBy, List.filterMap_append, ended, tail]
  by_cases h : tornLine 10 bytes.data.toList = []
  · rw [if_pos h, if_pos h, List.filterMap_nil]
  · rw [if_neg h, if_neg h]
    cases hv : lineValue? decode (tornLine 10 bytes.data.toList) <;> simp [hv]

theorem bytes_line (j : Json) : (line j).data.toList = utf8 j.compact.toList ++ [10] := by
  rw [line, bytes_toUTF8, String.toList_append, utf8_append]
  rfl

theorem not_mem_utf8_compact {b : UInt8} (hb : b.toNat < 0x20) (j : Json) :
    b ∉ utf8 j.compact.toList := by
  intro h
  obtain ⟨before, after, hsplit⟩ := List.append_of_mem h
  obtain ⟨xs, c, ys, hc, -, -, hcb⟩ := utf8_eq_append_cons (by omega) hsplit
  have := le_of_mem_compact j (c := c) (by rw [hc]; simp)
  omega

theorem utf8_compact_ne_nil (j : Json) : utf8 j.compact.toList ≠ [] := by
  obtain ⟨c, cs, hcs⟩ := List.exists_cons_of_ne_nil (compact_ne_nil j)
  rw [hcs, utf8_cons]
  exact List.append_ne_nil_of_left_ne_nil String.utf8EncodeChar_ne_nil _

theorem withoutLast_compact (xs : List UInt8) (j : Json) :
    withoutLast 13 (xs ++ utf8 j.compact.toList) = xs ++ utf8 j.compact.toList := by
  obtain ⟨ys, b, hys⟩ :=
    (List.eq_nil_or_concat (utf8 j.compact.toList)).resolve_left (utf8_compact_ne_nil j)
  have hb : b ≠ 13 := by
    rintro rfl
    exact not_mem_utf8_compact (b := 13) (by decide) j (by simp [hys])
  rw [withoutLast, hys, if_neg]
  simpa using hb

theorem readableLines_line (j : Json) : readableLines (line j) = [j.compact] := by
  have hline := linesBy_append_line 10 13 [] _ (not_mem_utf8_compact (b := 10) (by decide) j)
  have hnil : tornLine (10 : UInt8) [] = [] := rfl
  rw [hnil, withoutLast_compact, List.nil_append] at hline
  have htext : String.fromUTF8? ⟨(utf8 j.compact.toList).toArray⟩ = some j.compact := by
    rw [fromUTF8?_utf8, String.ofList_toList]
  have hended : endedLines (10 : UInt8) 13 [] = [] := rfl
  rw [readableLines, bytes_line, hline, hended, List.nil_append]
  simp only [List.filterMap_cons, htext, List.filterMap_nil]

theorem bytes_append_line (bytes : ByteArray) (j : Json) :
    (bytes ++ line j).data.toList = bytes.data.toList ++ utf8 j.compact.toList ++ [10] := by
  rw [ByteArray.toList_data_append, bytes_line, List.append_assoc]

theorem tail_append_line (bytes : ByteArray) (j : Json) : tail (bytes ++ line j) = [] := by
  rw [tail, bytes_append_line, tornLine_append_mark]

theorem ofContent_append_line (bytes : ByteArray) (j : Json) :
    ofContent decode (bytes ++ line j) = ended decode bytes ++
      (lineValue? decode (tail bytes ++ utf8 j.compact.toList)).toList := by
  rw [ofContent_eq_filterMap, bytes_append_line,
    linesBy_append_line 10 13 _ _ (not_mem_utf8_compact (by decide) j), List.filterMap_append,
    withoutLast_compact, ended, tail]
  cases hv : lineValue? decode (tornLine 10 bytes.data.toList ++ utf8 j.compact.toList) <;> simp [hv]

theorem fromUTF8?_blank {bytes : List UInt8} (h : ∀ b ∈ bytes, b = 9 ∨ b = 13 ∨ b = 32) :
    ∃ t, String.fromUTF8? ⟨bytes.toArray⟩ = some t ∧
      ∀ c ∈ t.toList, Lexer.isSpace c = true := by
  refine ⟨String.ofList (bytes.map fun b => Char.ofNat b.toNat), ?_, ?_⟩
  · have hbytes : bytes = utf8 (bytes.map fun b => Char.ofNat b.toNat) := by
      induction bytes with
      | nil => rfl
      | cons b bytes ih =>
        rw [List.map_cons, utf8_cons, ← ih fun x hx => h x (List.mem_cons_of_mem b hx)]
        rcases h b List.mem_cons_self with rfl | rfl | rfl <;> rfl
    conv => lhs; rw [hbytes]
    exact fromUTF8?_utf8 _
  · intro c hc
    rw [String.toList_ofList, List.mem_map] at hc
    obtain ⟨b, hb, rfl⟩ := hc
    rcases h b hb with rfl | rfl | rfl <;> decide

theorem blank_of_fromUTF8? {bytes : List UInt8} {t : String} (hfeed : 10 ∉ bytes)
    (h : String.fromUTF8? ⟨bytes.toArray⟩ = some t) (ht : ∀ c ∈ t.toList, Lexer.isSpace c = true) :
    ∀ b ∈ bytes, b = 9 ∨ b = 13 ∨ b = 32 := by
  intro b hb
  have hbytes := eq_utf8_of_fromUTF8? h
  rw [hbytes, utf8, List.mem_flatMap] at hb
  obtain ⟨c, hc, hbc⟩ := hb
  have hspace := ht c hc
  simp only [Lexer.isSpace, Bool.or_eq_true, decide_eq_true_eq] at hspace
  rcases hspace with ((rfl | rfl) | rfl) | rfl
  · exact .inr (.inr (List.mem_singleton.mp hbc))
  · exact .inl (List.mem_singleton.mp hbc)
  · exact absurd (hbytes ▸ List.mem_flatMap.mpr ⟨'\n', hc, List.mem_singleton_self 10⟩) hfeed
  · exact .inr (.inl (List.mem_singleton.mp hbc))

theorem lineValue?_blank {bytes : ByteArray} (h : EndsBlank bytes) :
    lineValue? decode (tail bytes) = none := by
  obtain ⟨t, ht, hspace⟩ := fromUTF8?_blank h
  have hparse : parse? t = none := by
    rw [parse?, tokens?, Lexer.foldlM_blanks [] _ hspace]
    rfl
  rw [lineValue?, ht, Option.bind_some, read?, hparse, Option.bind_none]

theorem lineValue?_append_blank {bytes : ByteArray} (h : EndsBlank bytes) (j : Json) :
    lineValue? decode (tail bytes ++ utf8 j.compact.toList) = decode j := by
  obtain ⟨t, ht, hspace⟩ := fromUTF8?_blank h
  rw [lineValue?, eq_utf8_of_fromUTF8? ht, ← utf8_append, fromUTF8?_utf8, Option.bind_some,
    String.ofList_append, String.ofList_toList, String.ofList_toList, read?,
    parse?_append_compact t hspace j, Option.bind_some]

theorem ofContent_append_of_endsBlank {bytes : ByteArray} (h : EndsBlank bytes) (j : Json) :
    ofContent decode (bytes ++ line j) = ofContent decode bytes ++ (decode j).toList := by
  rw [ofContent_append_line, lineValue?_append_blank decode h, ofContent_eq,
    lineValue?_blank decode h]
  simp

theorem ofContent_append_blank {bytes : ByteArray} (h : EndsBlank bytes) {j : Json} {a : α}
    (hj : decode j = some a) :
    ofContent decode (bytes ++ line j) = ofContent decode bytes ++ [a] := by
  rw [ofContent_append_of_endsBlank decode h, hj, Option.toList_some]

theorem lineValue?_append_torn {bytes : ByteArray} (h : ¬EndsBlank bytes) {key : String}
    (hkey : IsPlainKey key) (j : Json) (entries : List (JsonText × Json)) :
    lineValue? decode
      (tail bytes ++ utf8 (Json.obj ((some key, j) :: entries)).compact.toList) = none := by
  obtain ⟨rest, hrest⟩ := toList_compact_obj key hkey j entries
  rw [lineValue?, hrest, fromUTF8?_append _ _ (by decide), ← hrest, String.ofList_toList]
  cases ht : String.fromUTF8? ⟨(tail bytes).toArray⟩ with
  | none => rfl
  | some t =>
    have hspace : ¬∀ c ∈ t.toList, Lexer.isSpace c = true := fun hs =>
      h (blank_of_fromUTF8? (not_mem_tornLine 10 _) ht hs)
    rw [Option.map_some, Option.bind_some, read?, parse?_append_obj t hspace key hkey j entries,
      Option.bind_none]

theorem ofContent_append_torn {bytes : ByteArray} (h : ¬EndsBlank bytes) {key : String}
    (hkey : IsPlainKey key) (j : Json) (entries : List (JsonText × Json)) :
    ofContent decode (bytes ++ line (.obj ((some key, j) :: entries))) = ended decode bytes := by
  rw [ofContent_append_line, lineValue?_append_torn decode h hkey]
  simp

theorem ended_append_line (bytes : ByteArray) (j : Json) :
    ended decode (bytes ++ line j) = ended decode bytes ++
      (lineValue? decode (tail bytes ++ utf8 j.compact.toList)).toList := by
  have h := ofContent_eq decode (bytes ++ line j)
  rw [tail_append_line, if_pos rfl, List.append_nil] at h
  rw [← h, ofContent_append_line]

theorem ofContent_append_iff {key : String} (hkey : IsPlainKey key) {j : Json}
    {entries : List (JsonText × Json)} {a : α}
    (ha : decode (.obj ((some key, j) :: entries)) = some a) (bytes : ByteArray) :
    ofContent decode (bytes ++ line (.obj ((some key, j) :: entries))) =
      ofContent decode bytes ++ [a] ↔ EndsBlank bytes := by
  constructor
  · intro heq
    -- With the record that was not ended at least one more is lost than was added.
    by_contra hblank
    rw [ofContent_append_torn decode hblank hkey, ofContent_eq] at heq
    have := congrArg List.length heq
    simp only [List.length_append, List.length_singleton] at this
    omega
  · intro hblank
    exact ofContent_append_blank decode hblank ha

theorem endsBlank_of_tail_nil {bytes : ByteArray} (h : tail bytes = []) : EndsBlank bytes := by
  intro b hb
  rw [h] at hb
  exact absurd hb List.not_mem_nil

theorem content_concat (js : List Json) (j : Json) : content (js ++ [j]) = content js ++ line j := by
  rw [content, List.foldl_append]
  rfl

theorem tail_content (js : List Json) : tail (content js) = [] := by
  rcases List.eq_nil_or_concat js with rfl | ⟨js, j, rfl⟩
  · rfl
  · rw [List.concat_eq_append, content_concat, tail_append_line]

theorem ofContent_content_eq (js : List Json) :
    ofContent decode (content js) = js.filterMap decode := by
  induction js using List.reverseRecOn with
  | nil => rfl
  | append_singleton js j ih =>
    rw [content_concat, ofContent_append_of_endsBlank decode (endsBlank_of_tail_nil (tail_content _)),
      ih, List.filterMap_append, List.filterMap_cons]
    cases decode j <;> rfl

theorem ofContent_content (encode : α → Json) (as : List α)
    (h : ∀ a ∈ as, decode (encode a) = some a) : ofContent decode (content (as.map encode)) = as := by
  rw [ofContent_content_eq, List.filterMap_map]
  exact (List.filterMap_congr h).trans List.filterMap_some

end CallNotice.Journal
