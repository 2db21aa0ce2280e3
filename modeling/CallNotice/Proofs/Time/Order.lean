import CallNotice.Proofs.Time.RoundTrip

namespace CallNotice.Timestamp

variable {t u v : Timestamp}

def parts (t : Timestamp) : List Int :=
  [t.date.year, t.date.month, t.date.day, t.hour, t.minute, t.second, t.nanos]

theorem eq_of_parts_eq (h : t.parts = u.parts) : t = u := by
  obtain ⟨⟨year, month, day, _⟩, hour, minute, second, nanos, _⟩ := t
  obtain ⟨⟨year', month', day', _⟩, hour', minute', second', nanos', _⟩ := u
  simp only [parts, List.cons.injEq, Int.natCast_inj, and_true] at h
  obtain ⟨rfl, rfl, rfl, rfl, rfl, rfl, rfl⟩ := h
  rfl

theorem key_lt_iff : t.key < u.key ↔ t.parts < u.parts := by
  obtain ⟨hh, hm, hs, hn⟩ := t.valid
  obtain ⟨hh', hm', hs', hn'⟩ := u.valid
  obtain ⟨-, -, -, hmonth, -, hday⟩ := t.date.valid
  obtain ⟨-, -, -, hmonth', -, hday'⟩ := u.date.valid
  have hdays := daysIn_le t.date.year t.date.month
  have hdays' := daysIn_le u.date.year u.date.month
  simp only [key, parts, List.cons_lt_cons_iff, List.not_lt_nil, and_false, or_false]
  omega

theorem notAfter_iff : t.notAfter u = true ↔ ¬u.parts < t.parts := by
  rw [notAfter, decide_eq_true_iff, ← Int.not_lt, key_lt_iff]

theorem notAfter_refl (t : Timestamp) : t.notAfter t = true := decide_eq_true (Int.le_refl t.key)

theorem not_parts_lt (t : Timestamp) : ¬t.parts < t.parts := notAfter_iff.mp t.notAfter_refl

theorem eq_of_not_parts_lt (htu : ¬u.parts < t.parts) (hut : ¬t.parts < u.parts) : t = u :=
  eq_of_parts_eq (List.le_antisymm (List.not_lt.mp htu) (List.not_lt.mp hut))

theorem notAfter_trans (htu : t.notAfter u = true) (huv : u.notAfter v = true) :
    t.notAfter v = true := by
  rw [notAfter, decide_eq_true_iff] at *
  omega

theorem notAfter_total (t u : Timestamp) : (t.notAfter u || u.notAfter t) = true := by
  rw [Bool.or_eq_true, notAfter, notAfter, decide_eq_true_iff, decide_eq_true_iff]
  omega

end CallNotice.Timestamp
