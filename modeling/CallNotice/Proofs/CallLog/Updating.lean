import CallNotice.Proofs.CallLog.Coupling
import CallNotice.Proofs.Files.Reading
import CallNotice.Proofs.Host.Requests
import CallNotice.Proofs.Refusal

namespace CallNotice

open Files Act Journal

namespace Journal

variable {path : String} {s : Scene}

theorem isBarred_or_of_holds {files : Files} (hholds : files.holds path = true)
    (hnone : files.content? path = none) : files.isBarred (files.place path) = true ∨
      files.isDirectory (files.place path) = true := by
  obtain ⟨node, hat⟩ := Option.isSome_iff_exists.mp hholds
  obtain ⟨-, hnode, -⟩ := at?_eq_some_iff.mp hat
  cases node with
  | directory => exact .inr (decide_eq_true hnode)
  | file bytes =>
    left
    by_contra hfree
    rw [Bool.not_eq_true] at hfree
    have hcontent := content?_eq_some_iff_opened?.mpr (opened?_eq_some_iff.mpr ⟨hfree, hat⟩)
    cases hnone.symm.trans hcontent

theorem held_lock (hholds : s.files.holds path = true) :
    ((lock path).run s).2.files.held path = s.files.held path := by
  have hedited := edited_lock path s
  cases hcontent : s.files.content? path with
  | some bytes =>
    have hkept := hedited.content? (fileAt?_lock_self path s) hcontent
    rw [held_of_content? hkept, held_of_content? hcontent]
  | none =>
    have hclosed := isBarred_or_of_holds hholds hcontent
    have hnone : ((lock path).run s).2.files.content? path = none := by
      rw [Option.eq_none_iff_forall_ne_some]
      intro bytes hbytes
      obtain ⟨hadmits, -⟩ := content?_eq_some_iff.mp hbytes
      obtain ⟨-, -, hfile, hfree⟩ := admits_iff.mp hadmits
      rw [place_lock] at hfile hfree
      rcases hclosed with hbarred | hdir
      · rw [isBarred_congr hedited.barred, hbarred] at hfree
        cases hfree
      · rw [hedited.isDirectory hdir] at hfile
        cases hfile
    rw [held, held, hcontent, hnone]

end Journal

namespace CallLogJournal

variable {path : String} {s s' : Scene} {filter : CallLogFilter} {values : CallLogUpdate}

theorem rows_of_content?_eq_none {files : Files} (h : files.content? path = none) :
    rows path files = [] := by
  rw [rows, Journal.values, h]

theorem content?_of_rows_ne_nil {files : Files} (h : rows path files ≠ []) :
    ∃ bytes, files.content? path = some bytes := by
  rw [← Option.ne_none_iff_exists']
  exact fun hnone => h (rows_of_content?_eq_none hnone)

theorem rows_ne_nil_of_count {files : Files} (h : (rows path files).count filter ≠ 0) :
    rows path files ≠ [] := by
  intro hnil
  rw [hnil] at h
  exact h rfl

theorem rows_of_content {files : Files} {rs : Rows}
    (h : files.content? path = some (content (rs.map CallLogEntry.toJson))) :
    rows path files = rs :=
  (keeps_replaced CallLogEntry.toJson (fun row _ => row.ofJson?_toJson) h).values

theorem rows_of_holds_eq_false {files : Files} (h : files.holds path = false) :
    rows path files = [] := by
  apply rows_of_content?_eq_none
  rw [Option.eq_none_iff_forall_ne_some]
  intro bytes hbytes
  rw [holds_of_content? hbytes] at h
  cases h

theorem rows_lock (hholds : s.files.holds path = true) :
    rows path ((lock path).run s).2.files = rows path s.files := by
  rw [rows_eq, rows_eq, held_lock hholds]

theorem rows_seize (hholds : s.files.holds path = true) :
    rows path ((seize path).run s).2.files = rows path s.files := by
  rw [snd_run_seize, rows_lock hholds]

theorem run_update_ok {updated : Nat} (h : (update path filter values).run s = (.ok updated, s')) :
    updated = (rows path s.files).count filter ∧
      rows path s'.files = (rows path s.files).update filter values := by
  by_cases hholds : s.files.holds path = true
  · have hrows := rows_seize hholds
    rw [run_update hholds] at h
    rcases hseize : (seize path).run s with ⟨fault | u, s₁⟩
    · rw [hseize] at h
      cases h
    · rw [hseize] at h hrows
      dsimp only at h hrows
      rw [hrows] at h
      by_cases hcount : (rows path s.files).count filter = 0
      · rw [if_pos hcount] at h
        cases h
        rw [hcount, Rows.update_of_count_eq_zero hcount]
        exact ⟨rfl, hrows⟩
      · rw [if_neg hcount] at h
        -- Rows that were read come from a file, which can be replaced.
        rw [← hrows] at hcount
        obtain ⟨bytes, hcontent⟩ := content?_of_rows_ne_nil (rows_ne_nil_of_count hcount)
        obtain ⟨hadmits, -⟩ := content?_eq_some_iff.mp hcontent
        rcases hreplace : (replace path (((rows path s.files).update filter values).map
          CallLogEntry.toJson)).run s₁ with ⟨fault | u, s₂⟩
        · rw [hreplace] at h
          cases h
        · rw [hreplace] at h
          cases h
          have hrows' := rows_of_content (run_replace_ok hadmits hreplace)
          exact ⟨rfl, hrows'⟩
  · have hholds' : s.files.holds path = false := Bool.eq_false_iff.mpr hholds
    rw [run_update_absent hholds'] at h
    cases h
    rw [rows_of_holds_eq_false hholds']
    exact ⟨rfl, rfl⟩

theorem updateEnds_of_ends (h : Ends path s.files) : updateEnds path s = true := by
  unfold updateEnds
  split
  · rename_i hholds hseize
    exact decide_eq_true (ends_seized hseize hholds h)
  · rfl

theorem rows_of_update_error {fault : Fault}
    (h : (update path filter values).run s = (.error fault, s')) :
    rows path s'.files = rows path s.files := by
  by_cases hholds : s.files.holds path = true
  · cases hcontent : s.files.content? path with
    | some bytes =>
      have hkept := (cautious_update path filter values).readable h bytes hcontent
      rw [rows_eq, rows_eq, held_of_content? hkept, held_of_content? hcontent]
    | none =>
      -- Where no row is read, only the lock or the opening can be refused.
      have hrows := rows_seize hholds
      rw [run_update hholds] at h
      rcases hseize : (seize path).run s with ⟨fault' | u, s₁⟩
      · rw [hseize] at h hrows
        cases h
        exact hrows
      · rw [hseize] at h hrows
        have hempty : rows path s₁.files = [] :=
          hrows.trans (rows_of_content?_eq_none hcontent)
        dsimp only at h
        rw [hempty] at h
        cases h
  · rw [run_update_absent (Bool.eq_false_iff.mpr hholds)] at h
    cases h

end CallLogJournal

namespace CallLogStore

variable {store next : CallLogStore} {s s' : Scene} {filter : CallLogFilter}
  {values : CallLogUpdate}

theorem run_update_ok {updated : Nat}
    (h : (store.update filter values).run s = (.ok (updated, next), s')) :
    updated = (store.rows s.files).count filter ∧
      next.rows s'.files = (store.rows s.files).update filter values := by
  cases store with
  | memory rows =>
    cases h
    exact ⟨rfl, rfl⟩
  | journal path =>
    obtain ⟨updated, s₁, hupdate, hreturn⟩ := run_bind_ok h
    cases hreturn
    exact CallLogJournal.run_update_ok hupdate
  | unavailable => cases h

theorem rows_of_update_error {fault : Fault}
    (h : (store.update filter values).run s = (.error fault, s')) :
    store.rows s'.files = store.rows s.files := by
  cases store with
  | memory rows => cases h
  | journal path =>
    obtain hupdate | ⟨updated, s₁, -, hreturn⟩ := run_bind_error h
    · exact CallLogJournal.rows_of_update_error hupdate
    · cases hreturn
  | unavailable => rfl

end CallLogStore

namespace Host

variable {h h' : Host} {filter : CallLogFilter} {values : CallLogUpdate}

theorem rows_of_update_ok {updated : Nat} (hrun : h.update filter values = (.ok updated, h')) :
    updated = h.rows.count filter ∧ h'.rows = h.rows.update filter values := by
  rw [update_eq_commit] at hrun
  obtain ⟨store, scene, hstore, rfl⟩ := commit_ok hrun
  exact CallLogStore.run_update_ok hstore

theorem rows_of_update_error {fault : Fault} (hrun : h.update filter values = (.error fault, h')) :
    h'.rows = h.rows := by
  rw [update_eq_commit] at hrun
  obtain ⟨scene, hstore, rfl⟩ := commit_error hrun
  exact CallLogStore.rows_of_update_error hstore

end Host

end CallNotice
