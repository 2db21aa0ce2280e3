import CallNotice.Proofs.CallLog.Updating
import CallNotice.Proofs.Files.Persistence

namespace CallNotice

open Files Act Journal

namespace Rows

theorem length_update (rows : Rows) (filter : CallLogFilter) (values : CallLogUpdate) :
    (rows.update filter values).length = rows.length := List.length_map _

end Rows

namespace CallLogJournal

variable {path : String} {s s' : Scene} {fs fs' : Files} {filter : CallLogFilter}
  {values : CallLogUpdate}

theorem rows_of_leaves (h : Leaves path fs fs') (hreadable : Readable path fs) :
    rows path fs' = rows path fs := by
  rw [rows_eq, rows_eq, h.held hreadable]

theorem edited_update (path : String) (filter : CallLogFilter) (values : CallLogUpdate) (s : Scene) :
    Edited [path] s.files ((update path filter values).run s).2.files := by
  have hworks : Works [path] LogEvent.IsDebug (fun _ => True) (update path filter values) :=
    works_update (List.mem_singleton_self path) filter values
  exact (hworks s).1.files

def Updatable (path : String) (fs : Files) : Prop :=
  Lockable path fs ∧ fs.admits (Path.spareFile path) = true

theorem updatable_before {paths : List String} {bytes : ByteArray} (hedited : Edited paths fs fs')
    (hcontent : fs.content? path = some bytes) (h : Updatable path fs') : Updatable path fs :=
  ⟨lockable_before hedited hcontent h.1,
    admits_before hedited (spareFile_mem path) hcontent h.2⟩

theorem updatable_of_update_ok {updated : Nat}
    (h : (update path filter values).run s = (.ok updated, s'))
    (hcount : (rows path s.files).count filter ≠ 0) : Updatable path s.files := by
  obtain ⟨bytes, hcontent⟩ := content?_of_rows_ne_nil (rows_ne_nil_of_count hcount)
  have hholds := holds_of_content? hcontent
  have hrows := rows_seize hholds
  have hedited := edited_lock path s
  rw [← snd_run_seize] at hedited
  rw [run_update hholds] at h
  rcases hseize : (seize path).run s with ⟨fault | u, s₁⟩
  · rw [hseize] at h
    cases h
  · rw [hseize] at h hrows hedited
    dsimp only at h hrows
    rw [hrows, if_neg hcount] at h
    refine ⟨lockable_of_lock (run_lock_of_seize hseize) hcontent, ?_⟩
    apply admits_before hedited (spareFile_mem path) hcontent
    by_contra hspare
    rw [run_replace_refused (Bool.eq_false_iff.mpr hspare)] at h
    cases h

theorem update_ok_of_updatable (h : Updatable path s.files) {bytes : ByteArray}
    (hcontent : s.files.content? path = some bytes) (filter : CallLogFilter)
    (values : CallLogUpdate) :
    ∃ updated s', (update path filter values).run s = (.ok updated, s') := by
  obtain ⟨hadmits, -⟩ := content?_eq_some_iff.mp hcontent
  obtain ⟨updated, s', hrun, -⟩ := usable_update (usable_of_lockable h.1 hadmits h.2) filter values
  exact ⟨updated, s', hrun⟩

theorem fileAt?_of_count_eq_zero (h : (rows path s.files).count filter = 0)
    (values : CallLogUpdate) :
    ((update path filter values).run s).2.files.fileAt? (s.files.place path) =
      s.files.fileAt? (s.files.place path) := by
  by_cases hholds : s.files.holds path = true
  · have hlocked := fileAt?_lock_self path s
    have hrows := rows_seize hholds
    rw [← snd_run_seize] at hlocked
    rw [run_update hholds]
    rcases hseize : (seize path).run s with ⟨fault | u, s₁⟩
    · rw [hseize] at hlocked
      exact hlocked
    · rw [hseize] at hlocked hrows
      dsimp only at hrows ⊢
      rw [hrows, if_pos h]
      exact hlocked
  · rw [run_update_absent (Bool.eq_false_iff.mpr hholds)]

theorem leaves_update_of_count_eq_zero (h : (rows path s.files).count filter = 0)
    (values : CallLogUpdate) : Leaves path s.files ((update path filter values).run s).2.files :=
  ⟨⟨_, edited_update path filter values s⟩, fileAt?_of_count_eq_zero h values⟩

/-- No row is accepted any more, or nobody can change the rows. -/
structure Settled (filter : CallLogFilter) (path : String) (fs : Files) : Prop where
  readable : Readable path fs
  done : (rows path fs).count filter = 0 ∨ ¬Updatable path fs

theorem Settled.leaves (h : Settled filter path fs) (hleaves : Leaves path fs fs') :
    Settled filter path fs' := by
  refine ⟨hleaves.readable h.readable, ?_⟩
  rw [rows_of_leaves hleaves h.readable]
  by_cases hcount : (rows path fs).count filter = 0
  · exact .inl hcount
  · obtain ⟨bytes, hcontent⟩ := content?_of_rows_ne_nil (rows_ne_nil_of_count hcount)
    obtain ⟨paths, hedited⟩ := hleaves.edited
    exact .inr fun hupdatable =>
      (h.done.resolve_left hcount) (updatable_before hedited hcontent hupdatable)

theorem Settled.leaves_update (h : Settled filter path s.files) (values : CallLogUpdate) :
    Leaves path s.files ((update path filter values).run s).2.files := by
  by_cases hcount : (rows path s.files).count filter = 0
  · exact leaves_update_of_count_eq_zero hcount values
  · refine ⟨⟨_, edited_update path filter values s⟩, ?_⟩
    rcases hrun : (update path filter values).run s with ⟨fault | updated, s'⟩
    · exact fileAt?_of_update_error hrun
    · exact absurd (updatable_of_update_ok hrun hcount) (h.done.resolve_left hcount)

theorem settled_update (hreadable : Readable path s.files)
    (hnone : ∀ rows : Rows, (rows.update filter values).count filter = 0) :
    Settled filter path ((update path filter values).run s).2.files := by
  have hedited := edited_update path filter values s
  by_cases hcount : (rows path s.files).count filter = 0
  · have hleaves := leaves_update_of_count_eq_zero hcount values
    refine ⟨hleaves.readable hreadable, .inl ?_⟩
    rw [rows_of_leaves hleaves hreadable, hcount]
  · obtain ⟨bytes, hcontent⟩ := content?_of_rows_ne_nil (rows_ne_nil_of_count hcount)
    rcases hrun : (update path filter values).run s with ⟨fault | updated, s'⟩
    · rw [hrun] at hedited
      have hleaves : Leaves path s.files s'.files := ⟨⟨_, hedited⟩, fileAt?_of_update_error hrun⟩
      -- Had there been room afterwards, there would have been room before.
      refine ⟨hleaves.readable hreadable, .inr fun hupdatable => ?_⟩
      obtain ⟨updated, s₁, hok⟩ := update_ok_of_updatable
        (updatable_before hedited hcontent hupdatable) hcontent filter values
      rw [hrun] at hok
      cases hok
    · obtain ⟨-, hrows⟩ := run_update_ok hrun
      have hsome : rows path s'.files ≠ [] := by
        rw [hrows, ← List.length_pos_iff, Rows.length_update, List.length_pos_iff]
        exact rows_ne_nil_of_count hcount
      obtain ⟨bytes', hcontent'⟩ := content?_of_rows_ne_nil hsome
      refine ⟨readable_of_content? hcontent', .inl ?_⟩
      rw [hrows, hnone]

end CallLogJournal

namespace CallLogStore

variable {store next : CallLogStore} {filter : CallLogFilter} {values : CallLogUpdate}
  {fs fs' : Files} {s s' : Scene}

def Settled (filter : CallLogFilter) (store : CallLogStore) (fs : Files) : Prop :=
  match store with
  | memory rows => rows.count filter = 0
  | journal path => CallLogJournal.Settled filter path fs
  | unavailable => True

theorem settled_update (hreadable : ∀ path ∈ store.path?, Readable path s.files)
    (hnone : ∀ rows : Rows, (rows.update filter values).count filter = 0) :
    Settled filter (store.updated filter values)
      ((store.update filter values).run s).2.files := by
  cases store with
  | memory rows => exact hnone rows
  | journal path =>
    rw [update, snd_run_bind_pure]
    exact CallLogJournal.settled_update (hreadable path rfl) hnone
  | unavailable => trivial

theorem Settled.leaves (h : Settled filter store fs)
    (hleaves : ∀ path ∈ store.path?, Leaves path fs fs') : Settled filter store fs' := by
  cases store with
  | memory rows => exact h
  | journal path => exact CallLogJournal.Settled.leaves h (hleaves path rfl)
  | unavailable => trivial

theorem rows_of_leaves (hreadable : ∀ path ∈ store.path?, Readable path fs)
    (hleaves : ∀ path ∈ store.path?, Leaves path fs fs') : store.rows fs' = store.rows fs := by
  cases store with
  | memory rows => rfl
  | journal path => exact CallLogJournal.rows_of_leaves (hleaves path rfl) (hreadable path rfl)
  | unavailable => rfl

theorem Settled.readable (h : Settled filter store fs) : ∀ path ∈ store.path?, Readable path fs := by
  cases store with
  | memory rows => exact nofun
  | journal path =>
    rintro _ ⟨⟩
    exact CallLogJournal.Settled.readable h
  | unavailable => exact nofun

theorem Settled.updated (h : Settled filter store s.files) (values : CallLogUpdate) :
    store.updated filter values = store ∧ ∀ path ∈ store.path?,
      Leaves path s.files ((store.update filter values).run s).2.files := by
  cases store with
  | memory rows =>
    have hsame : rows.update filter values = rows := CallLogJournal.Rows.update_of_count_eq_zero h values
    refine ⟨?_, nofun⟩
    rw [CallLogStore.updated, hsame]
  | journal path =>
    refine ⟨rfl, ?_⟩
    rintro _ ⟨⟩
    rw [update, snd_run_bind_pure]
    exact CallLogJournal.Settled.leaves_update h values
  | unavailable => exact ⟨rfl, nofun⟩

end CallLogStore

end CallNotice
