import CallNotice.Proofs.Files.Journal

namespace CallNotice.Journal

open Files

variable {α : Type} {path : String} {files : Files} {s s' : Scene}

theorem filterMap_range_getElem? {β : Type} (xs : List β) (f : β → Option α) (n : Nat) :
    ((List.range n).filterMap fun k => xs[k]?.bind f) = (xs.take n).filterMap f := by
  induction n with
  | zero => rfl
  | succ n ih =>
    rw [List.range_succ, List.filterMap_append, ih, List.take_add_one, List.filterMap_append]
    congr 1
    cases hx : xs[n]? with
    | none => simp [hx]
    | some x => cases hfx : f x <;> simp [hx, hfx]

theorem values_eq_readings (decode : Json → Option α) {n : Nat} (h : reading path files n = none) :
    values decode path files =
      (List.range n).filterMap fun k => (reading path files k).join.bind (read? decode) := by
  rcases hopened : files.opened? path with _ | _ | bytes
  · simp [values, content?, reading, hopened]
  · rw [reading, hopened] at h
    cases h
  · have hcontent := content?_eq_some_iff_opened?.mpr hopened
    have hline (k : Nat) : (reading path files k).join.bind (read? decode) =
        (Text.linesBy 10 13 bytes.data.toList)[k]?.bind (lineValue? decode) := by
      rw [reading, hopened]
      dsimp only
      cases (Text.linesBy 10 13 bytes.data.toList)[k]? <;> rfl
    rw [reading, hopened] at h
    have hlast := List.getElem?_eq_none_iff.mp (Option.map_eq_none_iff.mp h)
    simp only [hline]
    rw [filterMap_range_getElem?, List.take_of_length_le hlast, ← ofContent_eq_filterMap, values,
      hcontent]

theorem ends_seized (h : (seize path).run s = (.ok (), s')) (hholds : s.files.holds path = true)
    (hends : Ends path s.files) : Ends path s'.files := by
  have hlock := run_lock_of_seize h
  rw [ends_iff] at hends ⊢
  cases hopened : s.files.opened? path with
  | some node =>
    rw [opened?_locked hlock hopened, ← hopened]
    exact hends
  | none =>
    obtain ⟨-, -, files, hgrows, hwrites⟩ := run_lock_ok hlock
    have hbarred : s.files.isBarred (s.files.place path) = true := by
      have hsome := isSome_opened? s.files path
      rw [hopened, hholds] at hsome
      simpa using hsome
    have hnone : s'.files.opened? path = none := by
      rw [opened?, hwrites.tree.place, hgrows.place, isBarred_congr hwrites.tree.barred,
        isBarred_congr hgrows.barred]
      exact if_pos hbarred
    rw [hnone]
    simp

end CallNotice.Journal
