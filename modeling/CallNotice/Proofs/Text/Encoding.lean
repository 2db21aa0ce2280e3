import CallNotice.Text.Lines

namespace CallNotice.Text

def utf8 (cs : List Char) : List UInt8 := cs.flatMap String.utf8EncodeChar

theorem utf8_cons (c : Char) (cs : List Char) : utf8 (c :: cs) = String.utf8EncodeChar c ++ utf8 cs :=
  List.flatMap_cons

theorem utf8_append (cs ds : List Char) : utf8 (cs ++ ds) = utf8 cs ++ utf8 ds :=
  List.flatMap_append

theorem utf8EncodeChar_ascii {c : Char} (hc : c.toNat < 128) :
    String.utf8EncodeChar c = [UInt8.ofNat c.toNat] := by
  have h : c.val.toNat ≤ 0x7f := by change c.toNat ≤ 0x7f; omega
  simp only [String.utf8EncodeChar, h, if_true]
  rfl

theorem le_of_mem_utf8EncodeChar {c : Char} (hc : 128 ≤ c.toNat) {b : UInt8}
    (hb : b ∈ String.utf8EncodeChar c) : 128 ≤ b.toNat := by
  have h : ¬c.val.toNat ≤ 0x7f := by change ¬c.toNat ≤ 0x7f; omega
  simp only [String.utf8EncodeChar, h, if_false] at hb
  split at hb
  case isTrue h₂ =>
    simp only [List.mem_cons, List.not_mem_nil, or_false] at hb
    rcases hb with rfl | rfl <;> simp only [UInt8.toNat_ofNat'] <;> omega
  case isFalse h₂ =>
    split at hb
    case isTrue h₃ =>
      simp only [List.mem_cons, List.not_mem_nil, or_false] at hb
      rcases hb with rfl | rfl | rfl <;> simp only [UInt8.toNat_ofNat'] <;> omega
    case isFalse h₃ =>
      simp only [List.mem_cons, List.not_mem_nil, or_false] at hb
      rcases hb with rfl | rfl | rfl | rfl <;> simp only [UInt8.toNat_ofNat'] <;> omega

theorem utf8_eq_append_cons {cs : List Char} {before after : List UInt8} {b : UInt8}
    (hb : b.toNat < 128) (h : utf8 cs = before ++ b :: after) :
    ∃ xs c ys, cs = xs ++ c :: ys ∧ utf8 xs = before ∧ utf8 ys = after ∧ c.toNat = b.toNat := by
  induction cs generalizing before with
  | nil => exact absurd h (by simp [utf8])
  | cons c cs ih =>
    rw [utf8_cons] at h
    rcases Nat.lt_or_ge c.toNat 128 with hc | hc
    · rw [utf8EncodeChar_ascii hc, List.singleton_append] at h
      cases before with
      | nil =>
        obtain ⟨hcb, htail⟩ := List.cons.inj h
        refine ⟨[], c, cs, rfl, rfl, htail, ?_⟩
        rw [← hcb, UInt8.toNat_ofNat', Nat.mod_eq_of_lt (by omega)]
      | cons a before =>
        obtain ⟨hca, htail⟩ := List.cons.inj h
        obtain ⟨xs, d, ys, hcs, hxs, hys, hd⟩ := ih htail
        refine ⟨c :: xs, d, ys, by rw [hcs]; rfl, ?_, hys, hd⟩
        rw [utf8_cons, utf8EncodeChar_ascii hc, hxs, hca]
        rfl
    · have hskip : ∃ before', before = String.utf8EncodeChar c ++ before' ∧
          utf8 cs = before' ++ b :: after := by
        rcases List.append_eq_append_iff.mp h with ⟨before', hb', ht⟩ | ⟨more, hmore, ht⟩
        · exact ⟨before', hb', ht⟩
        · cases more with
          | nil => exact ⟨[], by simpa using hmore.symm, by simpa using ht.symm⟩
          | cons a more =>
            obtain rfl : b = a := (List.cons.inj ht).1
            have := le_of_mem_utf8EncodeChar hc (b := b) (by rw [hmore]; simp)
            omega
      obtain ⟨before', rfl, ht⟩ := hskip
      obtain ⟨xs, d, ys, hcs, hxs, hys, hd⟩ := ih ht
      exact ⟨c :: xs, d, ys, by rw [hcs]; rfl, by rw [utf8_cons, hxs], hys, hd⟩

theorem bytes_toUTF8 (s : String) : s.toUTF8.data.toList = utf8 s.toList := by
  obtain ⟨cs, rfl⟩ := s.exists_eq_ofList
  rw [String.toUTF8_eq_toByteArray, String.toByteArray_ofList, List.utf8Encode,
    List.toList_data_toByteArray, String.toList_ofList]
  rfl

theorem toArray_utf8 (cs : List Char) :
    (⟨(utf8 cs).toArray⟩ : ByteArray) = (String.ofList cs).toByteArray := by
  apply ByteArray.ext
  apply Array.toList_inj.mp
  exact (String.toList_ofList ▸ bytes_toUTF8 (String.ofList cs)).symm

theorem fromUTF8?_utf8 (cs : List Char) :
    String.fromUTF8? ⟨(utf8 cs).toArray⟩ = some (String.ofList cs) := by
  rw [toArray_utf8, String.fromUTF8?, dif_pos (String.ofList cs).isValidUTF8]
  rfl

theorem eq_utf8_of_fromUTF8? {bytes : List UInt8} {s : String}
    (h : String.fromUTF8? ⟨bytes.toArray⟩ = some s) : bytes = utf8 s.toList := by
  rw [String.fromUTF8?] at h
  split at h
  case isTrue hv =>
    obtain rfl := Option.some.inj h
    rw [← bytes_toUTF8]
    rfl
  case isFalse => cases h

theorem fromUTF8?_append {bytes : List UInt8} (c : Char) (cs : List Char) (hc : c.toNat < 128) :
    String.fromUTF8? ⟨(bytes ++ utf8 (c :: cs)).toArray⟩ =
      (String.fromUTF8? ⟨bytes.toArray⟩).map (· ++ String.ofList (c :: cs)) := by
  cases hb : String.fromUTF8? ⟨bytes.toArray⟩ with
  | some s =>
    rw [eq_utf8_of_fromUTF8? hb, ← utf8_append, fromUTF8?_utf8, String.ofList_append,
      String.ofList_toList]
    rfl
  | none =>
    cases ht : String.fromUTF8? ⟨(bytes ++ utf8 (c :: cs)).toArray⟩ with
    | none => rfl
    | some s =>
      have hs := (eq_utf8_of_fromUTF8? ht).symm
      rw [utf8_cons, utf8EncodeChar_ascii hc] at hs
      have hb' : (UInt8.ofNat c.toNat).toNat < 128 := by
        rw [UInt8.toNat_ofNat', Nat.mod_eq_of_lt (by omega)]; exact hc
      obtain ⟨xs, -, -, -, hxs, -, -⟩ := utf8_eq_append_cons hb' hs
      rw [← hxs, fromUTF8?_utf8] at hb
      cases hb

end CallNotice.Text
