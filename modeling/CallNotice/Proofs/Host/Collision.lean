import CallNotice.Proofs.Host.Missed
import CallNotice.Proofs.Host.Sparing
import CallNotice.Proofs.Notification.Journal

namespace CallNotice.Host

open Journal Act Scene

variable {h : Host} {path : String} {journal : NotificationJournal}

theorem files_postNotice {next : NotificationJournal} {s' : Scene} {now : Timestamp}
    {n : Notification} (houtlet : h.outlet = .direct (.journal journal))
    (happend : (journal.append ⟨now, .notify, Notifier.noticeId, some n⟩).run h.scene =
      (.ok next, s')) : (h.postNotice now n).scene.files = s'.files := by
  have hjournal : (journal.notify now Notifier.noticeId n).run h.scene =
      (.ok next, s'.tell (.postRecorded Notifier.noticeId journal.path)) := by
    rw [NotificationJournal.notify, Act.run_bind_of_ok happend]
    rfl
  have hsink : ((Sink.journal journal).notify now Notifier.noticeId n).run h.scene =
      (.ok (.journal next), s'.tell (.postRecorded Notifier.noticeId journal.path)) := by
    rw [Sink.notify, Act.run_bind_of_ok hjournal]
    rfl
  rw [postNotice, Host.notify, houtlet, Outlet.notify, Act.run_bind_of_ok hsink]
  rfl

/-- The call log stands in the spare file of the outlet, whose journal is about to be reduced. -/
structure Collides (path : String) (journal : NotificationJournal) (h : Host) : Prop where
  listeners : h.listeners = [.recorder, .notifier]
  store : h.store = .journal path
  outlet : h.outlet = .direct (.journal journal)
  spareFile : h.scene.files.place path = h.scene.files.place (Path.spareFile journal.path)
  apart : h.scene.files.place journal.path ∉ places h.scene.files.here path
  lockable : Lockable journal.path h.scene.files
  admits : h.scene.files.admits (Path.spareFile journal.path) = true
  full : ∃ bytes, h.scene.files.content? journal.path = some bytes ∧ tail bytes = [] ∧
    NotificationJournal.maxRecords ≤ (NotificationJournal.read bytes).length
  due : journal.writes % NotificationJournal.checkInterval = 0

namespace Collides

theorem tell (hcollides : Collides path journal h) (event : LogEvent) :
    Collides path journal (h.tell event) := { hcollides with }

theorem setCount (hcollides : Collides path journal h) (count : UInt32) :
    Collides path journal (h.setCount count) := { hcollides with }

theorem record (hcollides : Collides path journal h) (hlockable : Lockable path h.scene.files)
    (hadmits : h.scene.files.admits path = true) (call : Call) :
    (h.record call).refusals = h.refusals ∧ (h.record call).count = h.count ∧
      Collides path journal (h.record call) := by
  obtain ⟨locked, hlock, hwrites⟩ := run_lock hlockable
  obtain ⟨id, files, hinsert, htree⟩ := CallLogJournal.run_insert hlock
    ((hwrites.tree.admits path).trans hadmits) (rowFor call)
  have hedited := (CallLogJournal.works_insert (List.mem_singleton_self path) (rowFor call)
    h.scene).1.files
  rw [hinsert] at hedited
  have hspares := hedited.spares_others
  have hrun : (h.store.insert (rowFor call)).run h.scene =
      (.ok (id, .journal path), { h.scene with files }) := by
    rw [hcollides.store, CallLogStore.insert, Act.run_bind_of_ok hinsert]
    rfl
  have hrecord : h.record call =
      { h with scene := { h.scene with files }.tell (.callRecorded id), store := .journal path } := by
    rw [Host.record, Host.insert, hrun]
    rfl
  have htree' : Files.SameTree h.scene.files files := hwrites.tree.trans htree
  obtain ⟨bytes, hcontent, hfull⟩ := hcollides.full
  rw [hrecord]
  refine ⟨Scene.refusals_tell _ _, rfl, hcollides.listeners, rfl, hcollides.outlet,
    ?_, ?_, ?_, ?_, ?_, hcollides.due⟩
  · exact ((htree'.place _).trans hcollides.spareFile).trans (htree'.place _).symm
  · change files.place journal.path ∉ places files.here path
    rw [htree'.place, htree'.here]
    exact hcollides.apart
  · exact hcollides.lockable.sameTree htree'
  · exact (htree'.admits _).trans hcollides.admits
  · exact ⟨bytes, hspares.content? hcollides.apart hcontent, hfull⟩

theorem rows_postNotice (hcollides : Collides path journal h) (now : Timestamp) (n : Notification) :
    (h.postNotice now n).rows = [] := by
  obtain ⟨bytes, hcontent, htail, hlong⟩ := hcollides.full
  have hadmits := (Files.content?_eq_some_iff.mp hcontent).1
  have husable := usable_of_lockable hcollides.lockable hadmits hcollides.admits
  have hgrown : NotificationJournal.maxRecords <
      (NotificationJournal.read (h.scene.files.held journal.path ++ line
        (NotificationRecord.toJson ⟨now, .notify, Notifier.noticeId, some n⟩))).length := by
    rw [Files.held_of_content? hcontent, NotificationJournal.read, ofContent_append_blank _
      (endsBlank_of_tail_nil htail) (NotificationRecord.ofJson?_toJson_eq _), List.length_append]
    exact Nat.lt_succ_of_le hlong
  have hne : h.scene.files.place (Path.spareFile journal.path) ≠
      h.scene.files.place journal.path := by
    rw [← hcollides.spareFile]
    intro heq
    apply hcollides.apart
    rw [← heq]
    exact file_mem_places _ path
  obtain ⟨s', happend, hlost⟩ := NotificationJournal.run_append_reducing husable
    (.inr ⟨bytes, hcontent⟩) hcollides.due hgrown hne
  have hfiles := files_postNotice hcollides.outlet happend
  have hspares := SparesLog.postNotice now n h
  rw [← hcollides.spareFile, ← hspares.files.place path, hfiles] at hlost
  rw [rows, hspares.store, hcollides.store, hfiles]
  exact (keeps_of_absent hlost : CallLogJournal.Kept path [] s'.files).values

theorem showMissed (hcollides : Collides path journal h) (now : Timestamp) (call : Call) :
    (h.showMissed now call).refusals = h.refusals ∧ (h.showMissed now call).count = h.count + 1 ∧
      (h.showMissed now call).rows = [] := by
  rw [showMissed_eq]
  refine ⟨?_, (SparesLog.postNotice now _ _).count, ?_⟩
  · rw [(SparesLog.postNotice now _ _).refusals, refusals_tell, refusals_tell,
      Notifier.refusesRow_composeEvent]
    rfl
  · exact (((hcollides.setCount _).tell _).tell _).rows_postNotice now _

theorem changeState (hcollides : Collides path journal h) (hlockable : Lockable path h.scene.files)
    (hadmits : h.scene.files.admits path = true) (now : Timestamp) {e : CallEvent}
    (hmissed : e.isMissed = true) :
    (h.changeState now e).refusals = h.refusals ∧ (h.changeState now e).count = h.count + 1 ∧
      (h.changeState now e).rows = [] := by
  have htold := hcollides.tell
    (.stateChanged e.call.describe e.before e.after h.listeners.length)
  obtain ⟨hrecorded, hsame, hcollides'⟩ := htold.record hlockable hadmits e.call
  obtain ⟨hshown, hcount, hrows⟩ := hcollides'.showMissed now e.call
  have hheard : h.changeState now e =
      ((h.tell (.stateChanged e.call.describe e.before e.after h.listeners.length)).record
        e.call).showMissed now e.call := by
    rw [Host.changeState, hcollides.listeners]
    simp only [List.foldl_cons, List.foldl_nil, hear, hmissed, if_true]
  rw [hheard]
  refine ⟨?_, ?_, hrows⟩
  · rw [hshown, hrecorded, refusals_tell]
    rfl
  · rw [hcount, hsame]
    rfl

end Collides

end CallNotice.Host
