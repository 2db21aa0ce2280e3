import CallNotice.Proofs.CallLog.Settling
import CallNotice.Proofs.Damage

namespace CallNotice

open Files Act Journal

theorem CallLogUpdate.apply_apply (values : CallLogUpdate) (e : CallLogEntry) :
    values.apply (values.apply e) = values.apply e := by
  rcases values with ⟨_ | isNew, _ | isRead⟩ <;> rfl

theorem Rows.update_update (rows : Rows) (filter : CallLogFilter) (values : CallLogUpdate) :
    (rows.update filter values).update filter values = rows.update filter values := by
  simp only [Rows.update, List.map_map]
  apply List.map_congr_left
  intro e _
  by_cases h : filter.accepts e = true
  · simp only [Function.comp_apply, if_pos h, CallLogUpdate.apply_apply, ite_self]
  · simp only [Function.comp_apply, if_neg h]

namespace CallLogJournal

variable {path : String} {s s' : Scene} {filter : CallLogFilter} {values : CallLogUpdate}
  {bytes : ByteArray} {updated : Nat}

theorem rows_of_content? {files : Files} (h : files.content? path = some bytes) :
    rows path files = ofContent CallLogEntry.ofJson? bytes :=
  values_of_content? _ h

/-- There is room for the lock, and for the spare file if there is a row to change. -/
structure Changeable (path : String) (filter : CallLogFilter) (files : Files) : Prop where
  lockable : Lockable path files
  spare : (rows path files).count filter ≠ 0 → files.admits (Path.spareFile path) = true

theorem Changeable.run_update (h : Changeable path filter s.files)
    (hcontent : s.files.content? path = some bytes) (values : CallLogUpdate) :
    ∃ s', (update path filter values).run s = (.ok ((rows path s.files).count filter), s') ∧
      SameTree s.files s'.files := by
  obtain ⟨locked, hlock, hwrites⟩ := run_lock h.lockable
  have hholds := holds_of_content? hcontent
  have hrows := rows_lock hholds
  rw [hlock] at hrows
  rw [CallLogJournal.run_update hholds, run_seize_of_content? hlock hcontent]
  dsimp only at hrows ⊢
  rw [hrows]
  by_cases hcount : (rows path s.files).count filter = 0
  · rw [if_pos hcount, hcount]
    exact ⟨_, rfl, hwrites.tree⟩
  · rw [if_neg hcount]
    obtain ⟨hadmits, -⟩ := content?_eq_some_iff.mp hcontent
    have hadmits' : locked.admits path = true := (hwrites.tree.admits path).trans hadmits
    have hspare : locked.admits (Path.spareFile path) = true :=
      (hwrites.tree.admits _).trans (h.spare hcount)
    obtain ⟨files, hreplace, htree, -⟩ := run_replace (s := { s with files := locked }) hadmits' hspare
      (((rows path s.files).update filter values).map CallLogEntry.toJson)
    rw [hreplace]
    exact ⟨_, rfl, hwrites.tree.trans htree⟩

theorem changeable_of_update_ok (h : (update path filter values).run s = (.ok updated, s'))
    (hcontent : s.files.content? path = some bytes) : Changeable path filter s.files := by
  constructor
  · rw [run_update (holds_of_content? hcontent)] at h
    rcases hseize : (seize path).run s with ⟨fault | u, s₁⟩
    · rw [hseize] at h
      cases h
    · exact lockable_of_lock (run_lock_of_seize hseize) hcontent
  · intro hcount
    obtain ⟨-, hspare⟩ := updatable_of_update_ok h hcount
    exact hspare

theorem content?_of_update_ok (h : (update path filter values).run s = (.ok updated, s'))
    (hcount : (rows path s.files).count filter = 0) (hcontent : s.files.content? path = some bytes) :
    s'.files.content? path = some bytes := by
  have hedited := edited_update path filter values s
  have hfile := fileAt?_of_count_eq_zero (s := s) hcount values
  rw [h] at hedited hfile
  exact hedited.content? hfile hcontent

theorem exists_content?_of_update_ok (h : (update path filter values).run s = (.ok updated, s'))
    (hcontent : s.files.content? path = some bytes) :
    ∃ bytes', s'.files.content? path = some bytes' := by
  by_cases hcount : (rows path s.files).count filter = 0
  · exact ⟨bytes, content?_of_update_ok h hcount hcontent⟩
  · obtain ⟨-, hrows⟩ := run_update_ok h
    apply content?_of_rows_ne_nil
    rw [hrows, ← List.length_pos_iff, Rows.length_update, List.length_pos_iff]
    exact rows_ne_nil_of_count hcount

theorem changeable_update (h : (update path filter values).run s = (.ok updated, s'))
    (hcontent : s.files.content? path = some bytes) : Changeable path filter s'.files := by
  have hchangeable := changeable_of_update_ok h hcontent
  obtain ⟨s₁, hrun, htree⟩ := hchangeable.run_update hcontent values
  cases h.symm.trans hrun
  refine ⟨hchangeable.lockable.sameTree htree, fun hcount' => ?_⟩
  rw [htree.admits]
  apply hchangeable.spare
  -- An update that changes nothing leaves nothing to change.
  intro hcount
  obtain ⟨-, hrows⟩ := run_update_ok h
  rw [hrows, Rows.update_of_count_eq_zero hcount] at hcount'
  exact hcount' hcount

theorem run_update_again (h : (update path filter values).run s = (.ok updated, s'))
    (hcontent : s.files.content? path = some bytes) :
    ∃ again s'', (update path filter values).run s' = (.ok again, s'') ∧
      rows path s''.files = rows path s'.files := by
  obtain ⟨bytes', hcontent'⟩ := exists_content?_of_update_ok h hcontent
  obtain ⟨s'', hagain, -⟩ := (changeable_update h hcontent).run_update hcontent' values
  obtain ⟨-, hrows⟩ := run_update_ok h
  obtain ⟨-, hrows'⟩ := run_update_ok hagain
  refine ⟨_, s'', hagain, ?_⟩
  rw [hrows', hrows, Rows.update_update]

/-- An update of a file is granted if and only if there is room for the files it needs. It tells how
many readable rows the filter accepts and gives these rows, and no others, the given values; no row
is lost or moved, and the same update once more changes nothing. -/
theorem update_is_exact (path : String) (filter : CallLogFilter) (values : CallLogUpdate)
    (s : Scene) :
    (s.files.holds path = false → (update path filter values).run s = (.ok 0, s)) ∧
    ∀ bytes, s.files.content? path = some bytes →
      let found := ofContent CallLogEntry.ofJson? bytes
      let accepted := found.countP filter.accepts
      ((∃ s', (update path filter values).run s = (.ok accepted, s')) ↔
        Lockable path s.files ∧
          (accepted ≠ 0 → s.files.admits (Path.spareFile path) = true)) ∧
      ∀ updated s', (update path filter values).run s = (.ok updated, s') →
        updated = accepted ∧
        rows path s'.files = found.map (fun e =>
          if filter.accepts e then
            { e with isNew := values.isNew.getD e.isNew, isRead := values.isRead.getD e.isRead }
          else e) ∧
        (accepted = 0 → s'.files.content? path = some bytes) ∧
        ∃ again s'', (update path filter values).run s' = (.ok again, s'') ∧
          rows path s''.files = rows path s'.files := by
  refine ⟨run_update_absent, ?_⟩
  intro bytes hcontent found accepted
  have hfound : rows path s.files = found := rows_of_content? hcontent
  have haccepted : (rows path s.files).count filter = accepted := by rw [hfound, Rows.count]
  constructor
  · constructor
    · rintro ⟨s', hrun⟩
      obtain ⟨hlockable, hspare⟩ := changeable_of_update_ok hrun hcontent
      rw [haccepted] at hspare
      exact ⟨hlockable, hspare⟩
    · rintro ⟨hlockable, hspare⟩
      rw [← haccepted] at hspare ⊢
      obtain ⟨s', hrun, -⟩ := Changeable.run_update ⟨hlockable, hspare⟩ hcontent values
      exact ⟨s', hrun⟩
  · intro updated s' hrun
    obtain ⟨hupdated, hrows⟩ := run_update_ok hrun
    rw [haccepted] at hupdated
    rw [hfound] at hrows
    refine ⟨hupdated, hrows, ?_, run_update_again hrun hcontent⟩
    intro hnone
    exact content?_of_update_ok hrun (haccepted.trans hnone) hcontent

theorem update_is_exact_around_damage :
    let missed := CallLogEntry.missed "555" none ⟨⟨2024, 1, 2, by decide⟩, 3, 4, 5, 0, by decide⟩
    let seen := { missed with isNew := false }
    let bytes := line seen.toJson ++ ⟨#[0xff]⟩ ++ lineFeed ++ line missed.toJson
    let files := (Files.blank ["home"]).put ["home", "calls.jsonl"] (.file bytes)
    ∃ s' again s'',
      (update "calls.jsonl" .newMissed .markRead).run (.ofFiles files) = (.ok 1, s') ∧
      rows "calls.jsonl" s'.files = [seen, { missed with isNew := false, isRead := true }] ∧
      (update "calls.jsonl" .newMissed .markRead).run s' = (.ok again, s'') ∧
      rows "calls.jsonl" s''.files = rows "calls.jsonl" s'.files := by
  intro missed seen bytes files
  have hfound : ofContent CallLogEntry.ofJson? bytes = [seen, missed] := by
    have hdamaged : IsDamaged CallLogEntry.ofJson? ⟨#[0xff]⟩ :=
      isDamaged_of_fromUTF8? _ (by decide)
    have hseen := seen.ofJson?_toJson
    have hmissed := missed.ofJson?_toJson
    clear_value seen missed
    rw [ofContent_damaged _ (endsLine_line _) (by decide) hdamaged, ofContent_line_append _ hseen,
      ← ByteArray.append_empty (b := line missed.toJson), ofContent_line_append _ hmissed]
    rfl
  clear_value bytes
  have hcontent : files.content? "calls.jsonl" = some bytes := rfl
  have hlockable : Lockable "calls.jsonl" files := lockable_of_parent_eq_empty rfl rfl
  have hspare : files.admits (Path.spareFile "calls.jsonl") = true := rfl
  obtain ⟨-, hexact⟩ := update_is_exact "calls.jsonl" .newMissed .markRead (.ofFiles files)
  obtain ⟨hgranted, hafter⟩ := hexact bytes hcontent
  obtain ⟨s', hrun⟩ := hgranted.mpr ⟨hlockable, fun _ => hspare⟩
  obtain ⟨-, hrows, -, again, s'', hagain, hsame⟩ := hafter _ s' hrun
  rw [hfound] at hrun hrows
  exact ⟨s', again, s'', hrun, hrows, hagain, hsame⟩

end CallLogJournal

end CallNotice
