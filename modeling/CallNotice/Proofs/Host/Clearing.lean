import CallNotice.Proofs.CallLog.Settling
import CallNotice.Proofs.Host.Independence
import CallNotice.Proofs.Notification.Settling

namespace CallNotice.Host

open Files Act Journal

variable {h : Host} {now : Timestamp} {path : String}

theorem clear_eq (now : Timestamp) (h : Host) : ∃ scene,
    scene.files = ((h.outlet.cancel now Notifier.noticeId).run h.markRead.scene).2.files ∧
      h.clear now = { h.markRead with
        scene
        notifier := { h.notifier with count := 0 }
        outlet := ((h.outlet.cancel now Notifier.noticeId).run h.markRead.scene).1.toOption.getD
          h.outlet } := by
  have hsame := SameNotices.markRead h
  obtain ⟨scene, hfiles, heq⟩ := orTell_eq .withdrawFailed
    ((h.markRead.setCount 0).cancel now Notifier.noticeId)
  rw [cancel_eq_ask, ask_eq] at hfiles heq
  refine ⟨scene.tell (.cleared h.count), ?_, ?_⟩
  · rw [← hsame.outlet]
    exact hfiles
  · rw [Host.clear, withdrawNotice_eq_orTell, cancel_eq_ask, heq, ← hsame.outlet, ← hsame.notifier]
    rfl

theorem count_clear (now : Timestamp) (h : Host) : (h.clear now).count = 0 := by
  obtain ⟨scene, -, heq⟩ := clear_eq now h
  rw [heq]
  rfl

theorem store_clear (now : Timestamp) (h : Host) :
    (h.clear now).store = h.store.updated .newMissed .markRead := by
  obtain ⟨scene, -, heq⟩ := clear_eq now h
  obtain ⟨event, hmarked⟩ := markRead_eq h
  rw [heq, hmarked, update_eq]
  rfl

theorem path?_clear (now : Timestamp) (h : Host) : (h.clear now).store.path? = h.store.path? := by
  rw [store_clear, CallLogStore.path?_updated]

theorem passes_clear (now : Timestamp) (h : Host) :
    Outlet.Passes (MemorySink.cancel Notifier.noticeId) h.outlet (h.clear now).outlet := by
  obtain ⟨scene, -, heq⟩ := clear_eq now h
  rw [heq]
  exact Outlet.passes_cancel now Notifier.noticeId h.outlet h.markRead.scene

theorem files_markRead (h : Host) : h.markRead.scene.files =
    ((h.store.update .newMissed .markRead).run h.scene).2.files := by
  obtain ⟨event, heq⟩ := markRead_eq h
  rw [heq, update_eq]
  rfl

theorem edited_markRead (h : Host) :
    Edited h.store.path?.toList h.scene.files h.markRead.scene.files := by
  rw [files_markRead]
  exact (h.store.works_update .newMissed .markRead h.scene).1.files

theorem edited_withdrawn (now : Timestamp) (h : Host) :
    Edited h.outlet.written h.markRead.scene.files (h.clear now).scene.files := by
  rw [← (SameNotices.markRead h).outlet]
  exact (SparesLog.withdrawNotice now (h.markRead.setCount 0)).edited

theorem journals_clear (now : Timestamp) (h : Host) :
    (h.clear now).outlet.journals = h.outlet.journals := by
  rw [← (SameNotices.markRead h).outlet]
  exact (SparesLog.withdrawNotice now (h.markRead.setCount 0)).outlet.journals

theorem here_markRead (h : Host) : h.markRead.scene.files.here = h.scene.files.here :=
  (edited_markRead h).here

theorem here_clear (now : Timestamp) (h : Host) :
    (h.clear now).scene.files.here = h.scene.files.here :=
  (edited_withdrawn now h).here.trans (here_markRead h)

def SparedBySinks (path : String) (h : Host) : Prop :=
  ∀ other ∈ h.outlet.journals, Foreign h.scene.files.here other (h.scene.files.place path)

theorem SparedBySinks.clear (hspared : SparedBySinks path h) (now : Timestamp) :
    SparedBySinks path (h.clear now) := by
  rw [SparedBySinks, journals_clear, Files.place, here_clear]
  exact hspared

theorem SparedBySinks.leaves (hspared : SparedBySinks path h) (now : Timestamp) :
    Leaves path h.markRead.scene.files (h.clear now).scene.files := by
  apply (edited_withdrawn now h).leaves
  intro other hother
  rw [Files.place, here_markRead]
  exact hspared other (Outlet.mem_journals_of_written hother)

section CallLog

/-- The file of the call log can be read if it is there, and no sink works on it. -/
def LogSpared (h : Host) : Prop :=
  ∀ path ∈ h.store.path?, Readable path h.scene.files ∧ SparedBySinks path h

theorem rows_markRead (h : Host) :
    (∀ updated, (h.update .newMissed .markRead).1 = .ok updated →
      h.markRead.rows = h.rows.update .newMissed .markRead) ∧
    ∀ fault, (h.update .newMissed .markRead).1 = .error fault → h.markRead.rows = h.rows := by
  obtain ⟨event, heq⟩ := markRead_eq h
  rw [heq]
  rcases hrun : h.update .newMissed .markRead with ⟨fault | updated, h'⟩
  · have hsame := rows_of_update_error hrun
    exact ⟨nofun, fun _ _ => hsame⟩
  · obtain ⟨-, hmarked⟩ := rows_of_update_ok hrun
    exact ⟨fun _ _ => hmarked, nofun⟩

theorem settled_markRead (hspared : h.LogSpared) :
    h.markRead.store.Settled .newMissed h.markRead.scene.files := by
  obtain ⟨event, heq⟩ := markRead_eq h
  rw [heq, update_eq]
  exact CallLogStore.settled_update (fun path hpath => (hspared path hpath).1)
    Rows.count_update_markRead

theorem settled_clear (hspared : h.LogSpared) (now : Timestamp) :
    (h.clear now).store.Settled .newMissed (h.clear now).scene.files ∧
      (h.clear now).rows = h.markRead.rows := by
  have hstore : (h.clear now).store = h.markRead.store := by
    obtain ⟨scene, -, heq⟩ := clear_eq now h
    rw [heq]
  have hsettled := settled_markRead hspared
  have hleaves : ∀ path ∈ h.markRead.store.path?,
      Leaves path h.markRead.scene.files (h.clear now).scene.files := by
    intro path hpath
    rw [← hstore, path?_clear] at hpath
    exact (hspared path hpath).2.leaves now
  rw [Host.rows, Host.rows, hstore]
  exact ⟨hsettled.leaves hleaves, CallLogStore.rows_of_leaves hsettled.readable hleaves⟩

theorem clear_of_settled (hsettled : h.store.Settled .newMissed h.scene.files)
    (hspared : ∀ path ∈ h.store.path?, SparedBySinks path h) (now : Timestamp) :
    (h.clear now).rows = h.rows ∧
      ∀ path ∈ h.store.path?, Leaves path h.scene.files (h.clear now).scene.files := by
  obtain ⟨hstore, hmarked⟩ := hsettled.updated .markRead
  have hleaves : ∀ path ∈ h.store.path?, Leaves path h.scene.files (h.clear now).scene.files := by
    intro path hpath
    have hfirst := hmarked path hpath
    rw [← files_markRead] at hfirst
    exact hfirst.trans ((hspared path hpath).leaves now)
  refine ⟨?_, hleaves⟩
  rw [Host.rows, store_clear, hstore]
  exact CallLogStore.rows_of_leaves hsettled.readable hleaves

end CallLog

section Sinks

/-- The journal of a sink is sane, and neither the call log nor another journal is worked on in its
file. -/
structure JournalSpared (path : String) (h : Host) : Prop where
  sane : NotificationJournal.Sane path h.scene.files
  log : ∀ log ∈ h.store.path?, Foreign h.scene.files.here log (h.scene.files.place path)
  others : ∀ other ∈ h.outlet.journals, Spared h.scene.files.here path other

theorem leaves_markRead
    (hlog : ∀ log ∈ h.store.path?, Foreign h.scene.files.here log (h.scene.files.place path)) :
    Leaves path h.scene.files h.markRead.scene.files := by
  apply (edited_markRead h).leaves
  intro log hmem
  exact hlog log (Option.mem_toList.mp hmem)

theorem settled_journal (hspared : JournalSpared path h) (hwet : h.outlet.isDry = false)
    (hmem : path ∈ h.outlet.journals) (now : Timestamp) :
    NotificationJournal.Settled Notifier.noticeId path (h.clear now).scene.files := by
  obtain ⟨scene, hfiles, heq⟩ := clear_eq now h
  rw [heq, hfiles]
  have hsane := hspared.sane.leaves (leaves_markRead hspared.log)
  exact Outlet.settled_cancel now Notifier.noticeId hwet hspared.others hmem (here_markRead h) hsane

theorem active_of_settled
    (hsettled : NotificationJournal.Settled Notifier.noticeId path h.scene.files)
    (hlog : ∀ log ∈ h.store.path?, Foreign h.scene.files.here log (h.scene.files.place path))
    (hothers : ∀ other ∈ h.outlet.journals, Spared h.scene.files.here path other)
    (now : Timestamp) :
    NotificationJournal.active path (h.clear now).scene.files =
      NotificationJournal.active path h.scene.files := by
  obtain ⟨scene, hfiles, heq⟩ := clear_eq now h
  have hleaves := leaves_markRead hlog
  have hcalms := (Outlet.calms_cancel now Notifier.noticeId hothers h.markRead.scene).1
  obtain ⟨-, hactive⟩ := hcalms.settled (here_markRead h) (hsettled.leaves hleaves)
  rw [heq, hfiles, hactive]
  exact NotificationJournal.active_of_leaves hleaves hsettled.readable

theorem forall₂_memories (hwet : h.outlet.isDry = false) (now : Timestamp) :
    List.Forall₂ (fun m m' : MemorySink => m'.active.get? Notifier.noticeId = none ∧
      ∀ id ≠ Notifier.noticeId, m'.active.get? id = m.active.get? id)
      h.outlet.memories (h.clear now).outlet.memories := by
  rw [(passes_clear now h).memories, hwet, if_neg Bool.false_ne_true, List.forall₂_map_right_iff,
    List.forall₂_same]
  intro m _
  refine ⟨?_, fun id hid => ?_⟩
  · rw [MemorySink.cancel, Board.get?_erase, if_pos rfl]
  · rw [MemorySink.cancel, Board.get?_erase, if_neg hid]

theorem actives_clear_clear (now now' : Timestamp) (h : Host) :
    ((h.clear now).clear now').outlet.memories.map MemorySink.active =
      (h.clear now).outlet.memories.map MemorySink.active := by
  have hfirst := passes_clear now h
  have hnext := passes_clear now' (h.clear now)
  rw [hnext.memories, hfirst.isDry, hfirst.memories]
  by_cases hdry : h.outlet.isDry = true
  · rw [if_pos hdry, if_pos hdry]
  · rw [if_neg hdry, if_neg hdry, List.map_map, List.map_map, List.map_map]
    apply List.map_congr_left
    intro m _
    apply Board.erase_of_get?_eq_none
    rw [MemorySink.cancel, Board.get?_erase, if_pos rfl]

end Sinks

/-- After clearing the count is zero, and in no sink in memory there is a notification about missed
calls. If the call log could be changed, just the rows that were new missed calls are marked as read;
otherwise the rows are as they were. Clearing once more changes nothing of this, nor the file of the
call log, nor what the journals of the sinks show. Of the files it is asked that the call log and the
sinks do not share them, and of the journals that no record in them is cut off or hollow. -/
theorem clear_settles (h : Host) (hwet : h.outlet.isDry = false) (now now' : Timestamp) :
    ((h.clear now).count = 0 ∧ ((h.clear now).clear now').count = 0) ∧
    (List.Forall₂ (fun m m' : MemorySink => m'.active.get? Notifier.noticeId = none ∧
        ∀ id ≠ Notifier.noticeId, m'.active.get? id = m.active.get? id)
        h.outlet.memories (h.clear now).outlet.memories ∧
      ((h.clear now).clear now').outlet.memories.map MemorySink.active =
        (h.clear now).outlet.memories.map MemorySink.active) ∧
    (h.LogSpared →
      (∀ updated, (h.update .newMissed .markRead).1 = .ok updated →
        (h.clear now).rows = h.rows.map (fun e =>
          if CallLogFilter.newMissed.accepts e then { e with isNew := false, isRead := true }
          else e) ∧
        ∀ e ∈ (h.clear now).rows, CallLogFilter.newMissed.accepts e = false) ∧
      (∀ fault, (h.update .newMissed .markRead).1 = .error fault → (h.clear now).rows = h.rows) ∧
      ((h.clear now).clear now').rows = (h.clear now).rows ∧
      ∀ path ∈ h.store.path?,
        ((h.clear now).clear now').scene.files.fileAt? (h.scene.files.place path) =
          (h.clear now).scene.files.fileAt? (h.scene.files.place path)) ∧
    ∀ path ∈ h.outlet.journals, JournalSpared path h →
      NotificationJournal.active path ((h.clear now).clear now').scene.files =
        NotificationJournal.active path (h.clear now).scene.files := by
  have hplace (path : String) : (h.clear now).scene.files.place path = h.scene.files.place path := by
    rw [Files.place, here_clear, Files.place]
  refine ⟨⟨count_clear now h, count_clear now' _⟩,
    ⟨forall₂_memories hwet now, actives_clear_clear now now' h⟩, fun hspared => ?_,
    fun path hpath hspared => ?_⟩
  · obtain ⟨hsettled, hrows⟩ := settled_clear hspared now
    obtain ⟨hok, herror⟩ := rows_markRead h
    have hspared' : ∀ path ∈ (h.clear now).store.path?, SparedBySinks path (h.clear now) := by
      intro path hpath
      rw [path?_clear] at hpath
      exact (hspared path hpath).2.clear now
    obtain ⟨hagain, hleaves⟩ := clear_of_settled hsettled hspared' now'
    refine ⟨fun updated hupdated => ?_, fun fault hfault => hrows.trans (herror fault hfault),
      hagain, fun path hpath => ?_⟩
    · have hmarked := hrows.trans (hok updated hupdated)
      refine ⟨hmarked, fun e he => ?_⟩
      have hnone := Rows.count_update_markRead h.rows
      rw [← hmarked, Rows.count, List.countP_eq_zero] at hnone
      exact Bool.eq_false_iff.mpr (hnone e he)
    · rw [← path?_clear now] at hpath
      have hfile := (hleaves path hpath).file
      rw [hplace] at hfile
      exact hfile
  · apply active_of_settled (settled_journal hspared hwet hpath now)
    · rw [path?_clear, here_clear, hplace]
      exact hspared.log
    · rw [journals_clear, here_clear]
      exact hspared.others

theorem clear_settles_of_three :
    let now : Timestamp := ⟨⟨2024, 1, 2, by decide⟩, 3, 4, 5, 0, by decide⟩
    let n : Notification :=
      ⟨"icon", now, "title", "text", .viewCallLog, none, false, [], none, false, false⟩
    let row : CallLogEntry := { CallLogEntry.missed "555" none now with id := 1 }
    let files := (Files.blank ["home"]).put ["home", "calls.jsonl"] (.file (content [row.toJson]))
    let host : Host := ⟨.ofFiles files, .journal "calls.jsonl",
      .dispatcher [.unavailable, .memory ⟨[(1, n), (7, n)], []⟩, .journal ⟨"notices.jsonl", 0⟩] false,
      .ofSettings .standard, [], []⟩
    let cleared := host.clear now
    cleared.rows = [{ row with isNew := false, isRead := true }] ∧
      (cleared.clear now).rows = cleared.rows ∧
      (cleared.clear now).scene.files.fileAt? ["home", "calls.jsonl"] =
        cleared.scene.files.fileAt? ["home", "calls.jsonl"] ∧
      NotificationJournal.active "notices.jsonl" (cleared.clear now).scene.files =
        NotificationJournal.active "notices.jsonl" cleared.scene.files := by
  intro now n row files host cleared
  have hbytes : files.content? "calls.jsonl" = some (content [row.toJson]) := rfl
  have hnone : files.node? (files.place "notices.jsonl") = none := rfl
  have hhere : files.here = ["home"] := rfl
  have hlockable : Lockable "calls.jsonl" files := by
    refine ⟨?_, rfl⟩
    rintro _ ⟨⟩ hne
    exact absurd rfl hne
  have hspare : files.admits (Path.spareFile "calls.jsonl") = true := rfl
  have hplace : host.scene.files.place "calls.jsonl" = ["home", "calls.jsonl"] := rfl
  clear_value files
  have hrows : host.rows = [row] := CallLogJournal.rows_of_content hbytes
  have hspared : host.LogSpared := by
    rintro _ ⟨⟩
    refine ⟨readable_of_content? hbytes, ?_⟩
    intro other hother
    obtain rfl : other = "notices.jsonl" := List.mem_singleton.mp hother
    change Foreign files.here "notices.jsonl" (Path.place files.here "calls.jsonl")
    rw [hhere]
    unfold Foreign
    decide +kernel
  have hjournal : JournalSpared "notices.jsonl" host := by
    refine ⟨NotificationJournal.sane_of_absent hnone, ?_, ?_⟩
    · rintro _ ⟨⟩
      change Foreign files.here "calls.jsonl" (Path.place files.here "notices.jsonl")
      rw [hhere]
      unfold Foreign
      decide +kernel
    · intro other hother hne
      exact absurd (List.mem_singleton.mp hother) hne
  obtain ⟨updated, hok⟩ : ∃ updated, (host.update .newMissed .markRead).1 = .ok updated := by
    obtain ⟨updated, s', hrun⟩ := CallLogJournal.update_ok_of_updatable (s := .ofFiles files)
      ⟨hlockable, hspare⟩ hbytes .newMissed .markRead
    have hstore : (host.store.update .newMissed .markRead).run host.scene =
        (.ok (updated, .journal "calls.jsonl"), s') := run_bind_of_ok hrun
    refine ⟨updated, ?_⟩
    rw [Host.update, hstore]
  obtain ⟨-, -, hlog, hsinks⟩ := clear_settles host rfl now now
  obtain ⟨hmarked, -, hagain, hfile⟩ := hlog hspared
  refine ⟨?_, hagain, ?_, hsinks _ (List.mem_singleton_self _) hjournal⟩
  · rw [(hmarked updated hok).1, hrows]
    rfl
  · have hsame := hfile "calls.jsonl" rfl
    rw [hplace] at hsame
    exact hsame

/-- Where the call log shares its file with a sink, each clearing adds a withdrawal to the file. -/
theorem clear_clear_shared_file :
    let now : Timestamp := ⟨⟨2024, 1, 2, by decide⟩, 3, 4, 5, 0, by decide⟩
    let host : Host := ⟨.ofFiles (.blank ["home"]), .journal "log.jsonl",
      .direct (.journal ⟨"log.jsonl", 0⟩), .ofSettings .standard, [], []⟩
    ((host.clear now).clear now).scene.files.fileAt? ["home", "log.jsonl"] ≠
      (host.clear now).scene.files.fileAt? ["home", "log.jsonl"] := by
  decide +kernel

end CallNotice.Host
