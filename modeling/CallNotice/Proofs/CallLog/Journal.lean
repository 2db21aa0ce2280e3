import CallNotice.CallLog.Journal
import CallNotice.Proofs.CallLog.Entry
import CallNotice.Proofs.Files.Journal

namespace CallNotice.CallLogJournal

open Journal

variable {path : String} {s s₁ s' : Scene} {e : CallLogEntry} {id : UInt64}

theorem run_insert_ok (h : (insert path e).run s = (.ok id, s')) (hopen : IsOpen path s.files) :
    id = (rows path s.files).nextId ∧
      s'.files.content? path =
        some (s.files.held path ++ line { e with id := id }.toJson) := by
  obtain ⟨u, s₁, hlock, h⟩ := Act.run_bind_ok h
  obtain ⟨u, s₂, htouching, h⟩ := Act.run_bind_ok h
  obtain ⟨found, s₃, hread, h⟩ := Act.run_bind_ok h
  cases hread
  obtain ⟨u, s₄, happend, h⟩ := Act.run_bind_ok h
  cases h
  obtain ⟨files, htouch, rfl⟩ := Act.run_onFiles_ok htouching
  have htouched := Files.writes_of_touch htouch
  have hheld : files.held path = s.files.held path := by
    rw [htouched.held, held_locked hlock hopen htouched.admits]
  obtain ⟨-, happended⟩ := run_append_ok happend
  constructor
  · simp only [rows, values_eq, hheld]
  · rw [happended.content?, hheld]

theorem run_insert (hlock : (lock path).run s = (.ok (), s₁))
    (hadmits : s₁.files.admits path = true) (e : CallLogEntry) :
    ∃ id files, (insert path e).run s = (.ok id, { s₁ with files }) ∧
      Files.SameTree s₁.files files := by
  obtain ⟨touched, htouch, htouched⟩ := Files.touch_of_admits hadmits
  have hadmits' : touched.admits path = true := (htouched.tree.admits path).trans hadmits
  obtain ⟨files, happend, happended⟩ := run_append (s := { s₁ with files := touched }) hadmits'
    { e with id := (rows path touched).nextId }.toJson
  refine ⟨(rows path touched).nextId, files, ?_, htouched.tree.trans happended.tree⟩
  have htouch' : (Act.onFiles (·.touch path)).run s₁ = (.ok (), { s₁ with files := touched }) :=
    Act.run_onFiles_of_ok htouch
  rw [insert, Act.run_bind_of_ok hlock, Act.run_bind_of_ok htouch',
    Act.run_bind_of_ok (Act.run_readFiles _ _), Act.run_bind_of_ok happend]
  rfl

abbrev Kept (path : String) (rows : Rows) (files : Files) : Prop :=
  Keeps CallLogEntry.ofJson? path rows files

theorem kept_insert (h : (insert path e).run s = (.ok id, s')) {rows : Rows}
    (hkept : Kept path rows s.files) :
    id = rows.nextId ∧ Kept path (rows.insert e) s'.files := by
  obtain ⟨rfl, hcontent⟩ := run_insert_ok h hkept.isOpen
  have hrows : CallLogJournal.rows path s.files = rows := hkept.values
  rw [hrows] at hcontent ⊢
  exact ⟨rfl, hkept.append (CallLogEntry.ofJson?_toJson _) hcontent⟩

theorem Rows.update_of_count_eq_zero {rows : Rows} {filter : CallLogFilter}
    (h : rows.count filter = 0) (values : CallLogUpdate) : rows.update filter values = rows := by
  rw [Rows.count, List.countP_eq_zero] at h
  rw [Rows.update]
  conv => rhs; rw [← List.map_id rows]
  apply List.map_congr_left
  intro row hrow
  rw [if_neg (h row hrow)]
  rfl

section Update

variable {filter : CallLogFilter} {values : CallLogUpdate}

theorem run_update_absent (h : s.files.holds path = false) :
    (update path filter values).run s = (.ok 0, s) := by
  rw [update, Act.run_bind_of_ok (Act.run_readFiles _ s), h]
  rfl

theorem run_update (h : s.files.holds path = true) :
    (update path filter values).run s =
      match (seize path).run s with
      | (.error fault, s₁) => (.error fault, s₁)
      | (.ok _, s₁) =>
        let found := CallLogJournal.rows path s₁.files
        if found.count filter = 0 then (.ok 0, s₁)
        else
          match (replace path ((found.update filter values).map CallLogEntry.toJson)).run s₁ with
          | (.error fault, s₂) => (.error fault, s₂)
          | (.ok _, s₂) =>
            (.ok (found.count filter), s₂.tell (.rowsUpdated path (found.count filter))) := by
  rw [update, Act.run_bind_of_ok (Act.run_readFiles _ s), h]
  simp only [Bool.not_true, Bool.false_eq_true, if_false]
  rw [Act.run_bind]
  rcases (seize path).run s with ⟨fault | u, s₁⟩
  · rfl
  · simp only
    rw [Act.run_bind_of_ok (Act.run_readFiles _ s₁)]
    by_cases hcount : (CallLogJournal.rows path s₁.files).count filter = 0
    · simp only [hcount, if_true]
      rfl
    · simp only [hcount, if_false]
      rw [Act.run_bind]
      rcases (replace path _).run s₁ with ⟨fault | u, s₂⟩ <;> rfl

theorem kept_update {rows : Rows} {updated : Nat}
    (h : (update path filter values).run s = (.ok updated, s')) (hkept : Kept path rows s.files) :
    updated = rows.count filter ∧ Kept path (rows.update filter values) s'.files := by
  rcases hkept.isOpen with hnone | ⟨bytes, hbytes⟩
  · have hempty : Kept path [] s.files := keeps_of_absent hnone
    have hrows : rows = [] := hkept.values.symm.trans hempty.values
    rw [run_update_absent (Files.holds_eq_false hnone)] at h
    cases h
    rw [hrows]
    exact ⟨rfl, hempty⟩
  · rw [run_update (Files.holds_of_content? hbytes)] at h
    rcases hseize : (seize path).run s with ⟨fault | u, s₁⟩
    · rw [hseize] at h
      cases h
    · have hlock := run_lock_of_seize hseize
      have hbytes₁ := content?_locked hlock hbytes
      have hkept₁ : Kept path rows s₁.files := hkept.locked hlock hbytes
      have hrows : CallLogJournal.rows path s₁.files = rows := hkept₁.values
      rw [hseize] at h
      simp only [hrows] at h
      by_cases hcount : rows.count filter = 0
      · rw [if_pos hcount] at h
        cases h
        rw [Rows.update_of_count_eq_zero hcount]
        exact ⟨hcount.symm, hkept₁⟩
      · rw [if_neg hcount] at h
        have hadmits := (Files.content?_eq_some_iff.mp hbytes₁).1
        by_cases hspare : s₁.files.admits (Path.spareFile path) = true
        · obtain ⟨files, hreplace, -, hcontent⟩ := run_replace hadmits hspare
            ((rows.update filter values).map CallLogEntry.toJson)
          rw [hreplace] at h
          cases h
          have hread (row : CallLogEntry) (_ : row ∈ rows.update filter values) :=
            row.ofJson?_toJson
          exact ⟨rfl, keeps_replaced CallLogEntry.toJson hread hcontent⟩
        · rw [run_replace_refused (Bool.eq_false_iff.mpr hspare)] at h
          cases h

theorem usable_update (h : Usable path s) (filter : CallLogFilter) (values : CallLogUpdate) :
    ∃ updated s', (update path filter values).run s = (.ok updated, s') ∧ Usable path s' := by
  obtain ⟨s₁, hlock, hadmits, hspare⟩ := h
  by_cases hholds : s.files.holds path = true
  · rw [run_update hholds, run_seize_of_admits hlock hholds hadmits]
    simp only
    by_cases hcount : (rows path s₁.files).count filter = 0
    · rw [if_pos hcount]
      exact ⟨0, s₁, rfl, usable_of_sameTree hlock .rfl hadmits hspare⟩
    · rw [if_neg hcount]
      obtain ⟨files, hreplace, htree, -⟩ := run_replace hadmits hspare
        (((rows path s₁.files).update filter values).map CallLogEntry.toJson)
      rw [hreplace]
      exact ⟨_, _, rfl, usable_of_sameTree hlock htree hadmits hspare⟩
  · refine ⟨0, s, run_update_absent (Bool.eq_false_iff.mpr hholds), s₁, hlock, hadmits, hspare⟩

theorem usable_insert (h : Usable path s) (e : CallLogEntry) :
    ∃ id s', (insert path e).run s = (.ok id, s') ∧ Usable path s' := by
  obtain ⟨s₁, hlock, hadmits, hspare⟩ := h
  obtain ⟨id, files, hrun, htree⟩ := run_insert hlock hadmits e
  exact ⟨id, _, hrun, usable_of_sameTree hlock htree hadmits hspare⟩

end Update

end CallNotice.CallLogJournal
