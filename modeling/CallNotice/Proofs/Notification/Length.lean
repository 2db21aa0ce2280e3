import CallNotice.Proofs.Notification.Reduction
import CallNotice.Proofs.Refusal
import Mathlib.Data.List.Perm.Subperm

/-!
The length of a journal of notifications. Its length is looked at after the first of every ten writes
and only then, and a reduced journal has one record for each id at most; so it is never longer than
that by more than the nine records between, wherever the counting begins anew.
-/

namespace CallNotice

open Files Act Journal

def LogEvent.skipsCompaction : LogEvent → Bool
  | .compactionSkipped .. => true
  | _ => false

namespace Scene

variable {paths : List String} {tells : LogEvent → Prop} {s s' : Scene}

def skips (s : Scene) : Nat := s.log.countP LogEvent.skipsCompaction

theorem skips_tell (event : LogEvent) (s : Scene) :
    (s.tell event).skips = s.skips + if event.skipsCompaction then 1 else 0 :=
  countP_tell _ event s

theorem skips_le_tell (event : LogEvent) (s : Scene) : s.skips ≤ (s.tell event).skips := by
  rw [skips_tell]
  exact Nat.le_add_right _ _

theorem Worked.skips_le (h : Worked paths tells s s') : s.skips ≤ s'.skips := h.countP_le _

theorem Worked.skips_eq (h : Worked paths (fun event => event.skipsCompaction = false) s s') :
    s'.skips = s.skips := h.countP fun _ => id

end Scene

namespace NotificationJournal

variable {ids : List Int32} {most most' : Nat} {bytes : ByteArray} {r : NotificationRecord}
  {rs : List NotificationRecord}

theorem nodup_latestOf (rs : List NotificationRecord) :
    ((latestOf rs).map NotificationRecord.id).Nodup := by
  have hids : (latestOf rs).map NotificationRecord.id =
      (rs.foldl keepLatest .empty).map Prod.fst := by
    rw [latestOf, List.map_map]
    apply List.map_congr_left
    intro e he
    exact (posts_of_mem_latest he).1
  rw [hids, List.Nodup, List.pairwise_map]
  apply (isSorted_latest rs).imp
  intro d e hde heq
  rw [heq] at hde
  exact Int32.lt_irrefl hde

theorem length_latestOf_le (h : ∀ r ∈ rs, r.id ∈ ids) : (latestOf rs).length ≤ ids.length := by
  rw [← List.length_map (f := NotificationRecord.id)]
  -- Each id has one record at most, and no record has another id.
  apply (List.subperm_of_subset (nodup_latestOf rs) _).length_le
  intro id hid
  obtain ⟨r, hr, rfl⟩ := List.mem_map.mp hid
  exact h r (mem_of_mem_latestOf hr)

/-- Whole lines, with at most so many records in them, which bear these ids. -/
structure IsShort (ids : List Int32) (most : Nat) (bytes : ByteArray) : Prop where
  tail : tail bytes = []
  ids : ∀ r ∈ read bytes, r.id ∈ ids
  length : (read bytes).length ≤ most

theorem isShort_of_read_nil (htail : tail bytes = []) (hread : read bytes = []) :
    IsShort ids most bytes := by
  refine ⟨htail, ?_, ?_⟩
  · rw [hread]
    exact fun r hr => absurd hr List.not_mem_nil
  · rw [hread]
    exact Nat.zero_le most

namespace IsShort

theorem mono (h : IsShort ids most bytes) (hmost : most ≤ most') : IsShort ids most' bytes :=
  ⟨h.tail, h.ids, Nat.le_trans h.length hmost⟩

theorem append (h : IsShort ids most bytes) (hid : r.id ∈ ids) :
    IsShort ids (most + 1) (bytes ++ line r.toJson) := by
  have hread : read (bytes ++ line r.toJson) =
      read bytes ++ [{ r with notification := r.notification.map Notification.reread }] :=
    ofContent_append_blank _ (endsBlank_of_tail_nil h.tail) r.ofJson?_toJson_eq
  refine ⟨tail_append_line _ _, ?_, ?_⟩
  · intro q hq
    rw [hread] at hq
    rcases List.mem_append.mp hq with hq | hq
    · exact h.ids q hq
    · rw [List.mem_singleton.mp hq]
      exact hid
  · rw [hread, List.length_append, List.length_singleton]
    exact Nat.succ_le_succ h.length

theorem of_reduced (h : IsShort ids most bytes) : IsShort ids ids.length (reduced bytes) := by
  refine ⟨tail_content _, ?_, ?_⟩
  · rw [read_reduced]
    exact fun r hr => h.ids r (mem_of_mem_latestOf hr)
  · rw [read_reduced]
    exact length_latestOf_le h.ids

end IsShort

def limit (ids : List Int32) : Nat := max maxRecords ids.length

/-- How many records may have come since the length was looked at. -/
def unchecked (writes : Nat) : Nat :=
  if writes = 0 then checkInterval - 1 else (writes - 1) % checkInterval

theorem unchecked_le (writes : Nat) : unchecked writes ≤ unchecked 0 := by
  have hlt : (writes - 1) % checkInterval < checkInterval := Nat.mod_lt _ (Nat.succ_pos 9)
  by_cases hzero : writes = 0
  · rw [hzero]
  · rw [unchecked, if_neg hzero, unchecked, if_pos rfl]
    omega

theorem unchecked_of_due {writes : Nat} (h : writes % checkInterval = 0) :
    unchecked (writes + 1) = 0 := by
  rwa [unchecked, if_neg (Nat.succ_ne_zero writes), Nat.add_sub_cancel]

theorem unchecked_of_not_due {writes : Nat} (h : writes % checkInterval ≠ 0) :
    unchecked (writes + 1) = unchecked writes + 1 := by
  have hzero : writes ≠ 0 := by
    rintro rfl
    exact h rfl
  rw [unchecked, if_neg (Nat.succ_ne_zero writes), unchecked, if_neg hzero]
  unfold checkInterval at h ⊢
  omega

def ShortAt (ids : List Int32) (most : Nat) (path : String) (fs : Files) : Prop :=
  ∀ bytes, fs.fileAt? (fs.place path) = some bytes → IsShort ids most bytes

section ShortAt

variable {path : String} {fs fs' : Files}

theorem shortAt_of_absent (h : fs.node? (fs.place path) = none) : ShortAt ids most path fs := by
  intro bytes hbytes
  rw [fileAt?_eq_some_iff, h] at hbytes
  cases hbytes

theorem shortAt_of_content? (h : fs.content? path = some bytes) (hshort : IsShort ids most bytes) :
    ShortAt ids most path fs := by
  intro bytes' hbytes'
  cases (fileAt?_of_content? h).symm.trans hbytes'
  exact hshort

namespace ShortAt

theorem mono (h : ShortAt ids most path fs) (hmost : most ≤ most') : ShortAt ids most' path fs :=
  fun bytes hbytes => (h bytes hbytes).mono hmost

theorem of_fileAt? (h : ShortAt ids most path fs) (hplace : fs'.place path = fs.place path)
    (hfile : fs'.fileAt? (fs.place path) = fs.fileAt? (fs.place path)) :
    ShortAt ids most path fs' := by
  intro bytes hbytes
  rw [hplace, hfile] at hbytes
  exact h bytes hbytes

theorem held (h : ShortAt ids most path fs) {file : String} (hplace : fs.place file = fs.place path) :
    IsShort ids most (fs.held file) := by
  cases hcontent : fs.content? file with
  | none =>
    rw [Files.held, hcontent]
    exact isShort_of_read_nil rfl rfl
  | some bytes =>
    rw [held_of_content? hcontent]
    apply h
    rw [← hplace]
    exact fileAt?_of_content? hcontent

theorem grown (h : ShortAt ids most path fs) (hgrows : Grows fs fs') : ShortAt ids most path fs' :=
  h.of_fileAt? (hgrows.place path) (hgrows.fileAt? _)

theorem written {file : String} (h : ShortAt ids most path fs) (hwrites : Writes fs file bytes fs')
    (hbytes : fs.place file = fs.place path → IsShort ids most bytes) : ShortAt ids most path fs' := by
  by_cases hplace : fs.place file = fs.place path
  · intro bytes' hbytes'
    rw [fileAt?_eq_some_iff, hwrites.tree.place, hwrites.node?, if_pos hplace.symm] at hbytes'
    cases hbytes'
    exact hbytes hplace
  · exact h.of_fileAt? (hwrites.tree.place path) (hwrites.fileAt?_elsewhere (Ne.symm hplace))

theorem moved {source target : String} (h : ShortAt ids most path fs)
    (hmoves : Moves fs source target bytes fs') (hbytes : IsShort ids most bytes) :
    ShortAt ids most path fs' := by
  have hplace := hmoves.tree.place
  by_cases htarget : fs.place path = fs.place target
  · intro bytes' hbytes'
    have hcontent := fileAt?_of_content? hmoves.content?
    rw [hplace, htarget, ← hplace, hcontent] at hbytes'
    cases hbytes'
    exact hbytes
  · by_cases hsource : fs.place path = fs.place source
    · apply shortAt_of_absent
      rw [hplace, hsource]
      rw [hsource] at htarget
      exact hmoves.erased htarget
    · exact h.of_fileAt? (hplace path) (fileAt?_congr (hmoves.elsewhere _ hsource htarget))

theorem length_records_le (h : ShortAt ids most path fs) : (records path fs).length ≤ most := by
  rw [records_eq]
  exact (h.held rfl).length

end ShortAt

end ShortAt

/-- However short the journal is, it is as short as that afterwards. -/
structure Dilutes (path : String) (s s' : Scene) : Prop where
  skips : s.skips ≤ s'.skips
  short (ids : List Int32) (most : Nat) :
    ShortAt ids most path s.files → ShortAt ids most path s'.files

namespace Dilutes

theorem tell (path : String) (event : LogEvent) (s : Scene) : Dilutes path s (s.tell event) :=
  ⟨Scene.skips_le_tell event s, fun _ _ => id⟩

theorem say (path : String) (line : String) (s : Scene) : Dilutes path s (s.say line) :=
  ⟨Nat.le_refl _, fun _ _ => id⟩

end Dilutes

section Append

variable {journal next : NotificationJournal} {s s' : Scene}

theorem skips_lock (path : String) (s : Scene) : ((lock path).run s).2.skips = s.skips :=
  (works_lock (List.mem_singleton_self path) s).1.skips_eq

theorem skips_compact (path : String) (s : Scene) : ((compact path).run s).2.skips = s.skips :=
  (works_compact (List.mem_singleton_self path) s).1.skips_eq

theorem run_compactIfDue_ok (h : s.files.content? journal.path = some bytes)
    (hrun : (compactIfDue journal).run s = (.ok (), s')) (hskips : s'.skips ≤ s.skips) :
    s'.files.content? journal.path =
      some (if journal.writes % checkInterval = 0 ∧ maxRecords < (read bytes).length then reduced bytes
        else bytes) := by
  by_cases hdue : journal.writes % checkInterval = 0
  · rw [compactIfDue, if_pos hdue, run_bind_of_ok (run_attempt _ s)] at hrun
    rcases hcompact : (compact journal.path).run s with ⟨fault | u, s₁⟩
    · rw [hcompact] at hrun
      cases hrun
      have hsame := skips_compact journal.path s
      rw [hcompact] at hsame
      rw [Scene.skips_tell, LogEvent.skipsCompaction, if_pos rfl, hsame] at hskips
      exact absurd hskips (Nat.not_succ_le_self _)
    · rw [hcompact] at hrun
      cases hrun
      rw [run_compact_ok h hcompact]
      simp only [hdue, true_and]
  · rw [compactIfDue, if_neg hdue] at hrun
    cases hrun
    simp only [hdue, false_and, if_false]
    exact h

theorem IsShort.reducedIfDue {writes : Nat} (h : IsShort ids (limit ids + unchecked writes + 1) bytes) :
    IsShort ids (limit ids + unchecked (writes + 1))
      (if writes % checkInterval = 0 ∧ maxRecords < (read bytes).length then reduced bytes
        else bytes) := by
  by_cases hdue : writes % checkInterval = 0
  · rw [unchecked_of_due hdue]
    by_cases hlong : maxRecords < (read bytes).length
    · rw [if_pos ⟨hdue, hlong⟩]
      exact h.of_reduced.mono (Nat.le_max_right _ _)
    · rw [if_neg fun hboth => hlong hboth.2]
      exact ⟨h.tail, h.ids, Nat.le_trans (Nat.not_lt.mp hlong) (Nat.le_max_left _ _)⟩
  · rw [if_neg fun hboth => hdue hboth.1, unchecked_of_not_due hdue]
    exact h

theorem shortAt_append (h : (journal.append r).run s = (.ok next, s')) (hid : r.id ∈ ids)
    (hskips : s'.skips ≤ s.skips)
    (hshort : ShortAt ids (limit ids + unchecked journal.writes) journal.path s.files) :
    next = { journal with writes := journal.writes + 1 } ∧
      ShortAt ids (limit ids + unchecked next.writes) journal.path s'.files := by
  have hlocked := fileAt?_lock_self journal.path s
  have hplace := place_lock journal.path journal.path s
  obtain ⟨u, s₁, hlock, h⟩ := run_bind_ok h
  rw [hlock] at hlocked hplace
  obtain ⟨u, s₂, happend, h⟩ := run_bind_ok h
  obtain ⟨u, s₃, hcompact, h⟩ := run_bind_ok h
  cases h
  obtain ⟨hs₁, -⟩ := run_lock_ok hlock
  obtain ⟨hs₂, hwrites⟩ := Journal.run_append_ok happend
  -- Neither the lock nor the line is logged, so that only the reduction could have been skipped.
  have hsame : s₂.skips = s.skips := by
    rw [hs₂, hs₁]
    rfl
  have hheld := ((hshort.of_fileAt? hplace hlocked).held rfl).append hid
  have hcontent := run_compactIfDue_ok hwrites.content? hcompact (hsame ▸ hskips)
  exact ⟨rfl, shortAt_of_content? hcontent hheld.reducedIfDue⟩

theorem dilutes_append_error {fault : Fault} (h : (journal.append r).run s = (.error fault, s')) :
    Dilutes journal.path s s' := by
  have hworks := works_append (List.mem_singleton_self journal.path) r s
  rw [h] at hworks
  have hplace : s'.files.place journal.path = s.files.place journal.path := by
    rw [Files.place, hworks.1.files.here, Files.place]
  exact ⟨hworks.1.skips_le, fun _ _ hshort => hshort.of_fileAt? hplace (fileAt?_of_append_error h)⟩

theorem skips_compactIfDue (husable : Usable journal.path s)
    (h : s.files.content? journal.path = some bytes) :
    ((compactIfDue journal).run s).2.skips = s.skips := by
  by_cases hdue : journal.writes % checkInterval = 0
  · obtain ⟨s', hcompact⟩ := run_compact_of_usable husable h
    have hsame := skips_compact journal.path s
    rw [compactIfDue, if_pos hdue, run_bind_of_ok (run_attempt _ s), hcompact]
    rw [hcompact] at hsame
    exact hsame
  · rw [compactIfDue, if_neg hdue]
    rfl

theorem skips_append (h : Usable journal.path s) (r : NotificationRecord) :
    ((journal.append r).run s).2.skips = s.skips := by
  obtain ⟨s₁, hlock, hadmits, hspare⟩ := h
  obtain ⟨files, happend, hwrites⟩ := run_append hadmits r.toJson
  have husable : Usable journal.path { s₁ with files } :=
    usable_of_sameTree hlock hwrites.tree hadmits hspare
  have hsame := skips_lock journal.path s
  rw [hlock] at hsame
  rw [append, run_bind_of_ok hlock, run_bind_of_ok happend, snd_run_bind_pure]
  exact (skips_compactIfDue husable hwrites.content?).trans hsame

end Append

end NotificationJournal

end CallNotice
