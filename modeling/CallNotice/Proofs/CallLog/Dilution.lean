import CallNotice.Proofs.CallLog.Store
import CallNotice.Proofs.Discretion.Outline
import CallNotice.Proofs.Notification.Length

namespace CallNotice

open Files Act Journal

namespace NotificationJournal

variable {ids : List Int32} {most : Nat} {path : String} {s s' s'' : Scene}

theorem IsShort.append_row {bytes : ByteArray} (h : IsShort ids most bytes) (e : CallLogEntry) :
    IsShort ids most (bytes ++ line e.toJson) := by
  have hread : read (bytes ++ line e.toJson) = read bytes := by
    rw [read, ofContent_append_of_endsBlank _ (endsBlank_of_tail_nil h.tail),
      Outline.not_record]
    exact List.append_nil _
  refine ⟨tail_append_line _ _, ?_, ?_⟩
  · rw [hread]
    exact h.ids
  · rw [hread]
    exact h.length

theorem isShort_rows (rows : Rows) : IsShort ids most (content (rows.map CallLogEntry.toJson)) := by
  apply isShort_of_read_nil (tail_content _)
  rw [read, ofContent_content_eq, List.filterMap_map, List.filterMap_eq_nil_iff]
  exact fun e _ => Outline.not_record e

theorem isFrame_dilutes (path : String) : IsFrame (Dilutes path) where
  rfl _ := ⟨Nat.le_refl _, fun _ _ => id⟩
  trans h h' := ⟨Nat.le_trans h.skips h'.skips, fun ids most hshort =>
    h'.short ids most (h.short ids most hshort)⟩

theorem dilutes_tell (path : String) (event : LogEvent) :
    Ensures (Dilutes path) (fun _ => True) (Act.tell event) :=
  fun s => ⟨.tell path event s, fun _ _ => trivial⟩

theorem dilutes_writes {change : Files → Except Fault Files}
    (h : ∀ fs fs', change fs = .ok fs' → ∀ ids most, ShortAt ids most path fs →
      ShortAt ids most path fs') :
    Ensures (Dilutes path) (fun _ => True) (onFiles change) :=
  Ensures.onFiles (isFrame_dilutes path) fun s files hchange =>
    ⟨Nat.le_refl _, h s.files files hchange⟩

theorem dilutes_lock (path file : String) : Ensures (Dilutes path) (fun _ => True) (lock file) := by
  refine fun s => ⟨⟨(skips_lock file s).ge, fun ids most h => ?_⟩, fun _ _ => trivial⟩
  obtain ⟨files, hgrows, heq | hwrites⟩ := run_lock_leaves file s
  · rw [heq]
    exact h.grown hgrows
  · exact (h.grown hgrows).written hwrites (h.grown hgrows).held

theorem dilutes_seize (path file : String) :
    Ensures (Dilutes path) (fun _ => True) (Journal.seize file) := by
  intro s
  rw [snd_run_seize]
  exact ⟨(dilutes_lock path file s).1, fun _ _ => trivial⟩

theorem dilutes_append_row (path file : String) (e : CallLogEntry) :
    Ensures (Dilutes path) (fun _ => True) (Journal.append file e.toJson) := by
  apply dilutes_writes
  intro fs fs' happend ids most h
  exact h.written (writes_of_append happend) fun hplace => (h.held hplace).append_row e

theorem dilutes_replace_rows (path file : String) (rows : Rows) :
    Ensures (Dilutes path) (fun _ => True)
      (Journal.replace file (rows.map CallLogEntry.toJson)) := by
  refine fun s => ⟨⟨?_, fun ids most h => ?_⟩, fun _ _ => trivial⟩
  · exact (works_replace (List.mem_singleton_self file) _ s).1.skips_eq.ge
  · rw [Journal.replace, run_bind, run_onFiles]
    cases hwrite : s.files.write (Path.spareFile file) (content (rows.map CallLogEntry.toJson)) with
    | error fault => exact h
    | ok written =>
      have hwrites := writes_of_write hwrite
      have hshort := h.written hwrites fun _ => isShort_rows rows
      dsimp only
      rw [run_onFiles]
      cases hrename : written.rename (Path.spareFile file) file with
      | error fault => exact hshort
      | ok renamed =>
        obtain ⟨-, rfl⟩ | hmoves := rename_ok_of_content? hwrites.content? hrename
        · exact hshort
        · exact hshort.moved hmoves (isShort_rows rows)

end NotificationJournal

namespace CallLogJournal

open NotificationJournal

theorem dilutes_insert (path file : String) (e : CallLogEntry) :
    Ensures (Dilutes path) (fun _ => True) (insert file e) := by
  have hframe := isFrame_dilutes path
  refine Ensures.bind hframe (dilutes_lock path file) fun _ _ => ?_
  refine Ensures.bind hframe (dilutes_writes fun fs fs' htouch ids most h => ?_) fun _ _ => ?_
  · exact h.written (writes_of_touch htouch) h.held
  refine Ensures.bind hframe (Ensures.readFiles hframe _) fun _ _ => ?_
  refine Ensures.bind hframe (dilutes_append_row path file _) fun _ _ => ?_
  exact Ensures.pure hframe trivial

theorem dilutes_update (path file : String) (filter : CallLogFilter) (values : CallLogUpdate) :
    Ensures (Dilutes path) (fun _ => True) (update file filter values) := by
  have hframe := isFrame_dilutes path
  refine Ensures.bind hframe (Ensures.readFiles hframe _) fun holds _ => ?_
  cases holds with
  | false => exact Ensures.pure hframe trivial
  | true =>
    refine Ensures.bind hframe (dilutes_seize path file) fun _ _ => ?_
    refine Ensures.bind hframe (Ensures.readFiles hframe _) fun found _ => ?_
    by_cases hcount : found.count filter = 0
    · simp only [hcount, if_true]
      exact Ensures.pure hframe trivial
    · simp only [hcount, if_false]
      refine Ensures.bind hframe (dilutes_replace_rows path file _) fun _ _ => ?_
      refine Ensures.bind hframe (dilutes_tell path _) fun _ _ => ?_
      exact Ensures.pure hframe trivial

end CallLogJournal

namespace CallLogStore

open NotificationJournal CallLogJournal

variable (path : String) (store : CallLogStore)

theorem dilutes_insert (e : CallLogEntry) :
    Ensures (Dilutes path) (fun _ => True) (store.insert e) := by
  have hframe := isFrame_dilutes path
  cases store with
  | memory rows => exact Ensures.pure hframe trivial
  | journal file =>
    refine Ensures.bind hframe (CallLogJournal.dilutes_insert path file e) fun _ _ => ?_
    exact Ensures.pure hframe trivial
  | unavailable => exact Ensures.throw hframe _

theorem dilutes_update (filter : CallLogFilter) (values : CallLogUpdate) :
    Ensures (Dilutes path) (fun _ => True) (store.update filter values) := by
  have hframe := isFrame_dilutes path
  cases store with
  | memory rows => exact Ensures.pure hframe trivial
  | journal file =>
    refine Ensures.bind hframe (CallLogJournal.dilutes_update path file filter values) fun _ _ => ?_
    exact Ensures.pure hframe trivial
  | unavailable => exact Ensures.throw hframe _

end CallLogStore

end CallNotice
