import CallNotice.Proofs.Files.Journal
import CallNotice.Proofs.Notification.Codec
import CallNotice.Proofs.Notification.Compaction
import CallNotice.Proofs.Notification.Editing

namespace CallNotice.NotificationJournal

open Journal

variable {path : String} {s s₁ s' : Scene} {bytes : ByteArray}

def read (bytes : ByteArray) : List NotificationRecord :=
  ofContent NotificationRecord.ofJson? bytes

def reduced (bytes : ByteArray) : ByteArray :=
  content ((latestOf (read bytes)).map NotificationRecord.toJson)

theorem records_eq (path : String) (files : Files) : records path files = read (files.held path) :=
  values_eq NotificationRecord.ofJson? path files

theorem read_content {rs : List NotificationRecord}
    (h : ∀ r ∈ rs, ∀ n ∈ r.notification, n.IsReadBack) :
    read (content (rs.map NotificationRecord.toJson)) = rs :=
  ofContent_content _ _ rs fun r hr => NotificationRecord.ofJson?_toJson (h r hr)

theorem run_compact_of_lock (hlock : (lock path).run s = (.ok (), s₁))
    (h : s.files.content? path = some bytes) :
    (compact path).run s =
      (if maxRecords < (read bytes).length then
        Journal.replace path ((latestOf (read bytes)).map NotificationRecord.toJson)
      else pure ()).run s₁ := by
  have hrecords : records path s₁.files = read bytes := by
    rw [records_eq, Files.held_of_content? (content?_locked hlock h)]
  rw [compact, Act.run_bind_of_ok (run_seize_of_content? hlock h),
    Act.run_bind_of_ok (Act.run_readFiles _ _), hrecords]

theorem run_compact (hlockable : Lockable path s.files) (h : s.files.content? path = some bytes) :
    ∃ result files, (compact path).run s = (result, { s with files }) ∧
      Files.SameTree s.files files ∧
      (files.content? path = some bytes ∨
        maxRecords < (read bytes).length ∧ files.content? path = some (reduced bytes)) := by
  obtain ⟨locked, hlock, hwrites⟩ := run_lock hlockable
  have hbytes : locked.content? path = some bytes := content?_locked hlock h
  rw [run_compact_of_lock hlock h]
  by_cases hlong : maxRecords < (read bytes).length
  · rw [if_pos hlong]
    by_cases hspare : locked.admits (Path.spareFile path) = true
    · have hadmits := (Files.content?_eq_some_iff.mp hbytes).1
      obtain ⟨files, hreplace, htree, hcontent⟩ := run_replace (s := { s with files := locked })
        hadmits hspare ((latestOf (read bytes)).map NotificationRecord.toJson)
      exact ⟨_, files, hreplace, hwrites.tree.trans htree, .inr ⟨hlong, hcontent⟩⟩
    · have hrefused := run_replace_refused (s := { s with files := locked })
        (Bool.eq_false_iff.mpr hspare) ((latestOf (read bytes)).map NotificationRecord.toJson)
      exact ⟨_, locked, hrefused, hwrites.tree, .inl hbytes⟩
  · rw [if_neg hlong]
    exact ⟨_, locked, rfl, hwrites.tree, .inl hbytes⟩

theorem run_compact_ok (h : s.files.content? path = some bytes)
    (hcompact : (compact path).run s = (.ok (), s')) :
    s'.files.content? path =
      some (if maxRecords < (read bytes).length then reduced bytes else bytes) := by
  obtain ⟨u, s₁, hseize, -⟩ := Act.run_bind_ok hcompact
  have hlock := run_lock_of_seize hseize
  have hbytes := content?_locked hlock h
  rw [run_compact_of_lock hlock h] at hcompact
  by_cases hlong : maxRecords < (read bytes).length
  · rw [if_pos hlong] at hcompact ⊢
    exact run_replace_ok (Files.content?_eq_some_iff.mp hbytes).1 hcompact
  · rw [if_neg hlong] at hcompact ⊢
    cases hcompact
    exact hbytes

theorem run_compact_of_usable (husable : Usable path s) (h : s.files.content? path = some bytes) :
    ∃ s', (compact path).run s = (.ok (), s') := by
  obtain ⟨s₁, hlock, hadmits, hspare⟩ := husable
  rw [run_compact_of_lock hlock h]
  by_cases hlong : maxRecords < (read bytes).length
  · rw [if_pos hlong]
    obtain ⟨files, hreplace, -⟩ := run_replace hadmits hspare
      ((latestOf (read bytes)).map NotificationRecord.toJson)
    exact ⟨_, hreplace⟩
  · rw [if_neg hlong]
    exact ⟨s₁, rfl⟩

theorem spareFile_of_compact (h : s.files.content? path = some bytes)
    (hcompact : (compact path).run s = (.ok (), s')) (hlong : maxRecords < (read bytes).length)
    (hne : s.files.place (Path.spareFile path) ≠ s.files.place path) :
    s'.files.node? (s.files.place (Path.spareFile path)) = none := by
  obtain ⟨u, s₁, hseize, -⟩ := Act.run_bind_ok hcompact
  have hlock := run_lock_of_seize hseize
  obtain ⟨-, -, files, hgrows, hwrites⟩ := run_lock_ok hlock
  have hplace (other : String) : s₁.files.place other = s.files.place other :=
    (hwrites.tree.place other).trans (hgrows.place other)
  rw [run_compact_of_lock hlock h, if_pos hlong] at hcompact
  rw [← hplace, ← hplace path] at hne
  rw [← hplace]
  exact spareFile_of_replace hcompact hne

theorem run_compactIfDue (journal : NotificationJournal) (hlockable : Lockable journal.path s.files)
    (h : s.files.content? journal.path = some bytes) :
    ∃ s', (compactIfDue journal).run s = (.ok (), s') ∧ Files.SameTree s.files s'.files ∧
      (s'.files.content? journal.path = some bytes ∨
        (journal.writes % checkInterval = 0 ∧ maxRecords < (read bytes).length) ∧
          s'.files.content? journal.path = some (reduced bytes)) := by
  by_cases hdue : journal.writes % checkInterval = 0
  · obtain ⟨result, files, hrun, htree, hcontent⟩ := run_compact hlockable h
    have hcontent' : files.content? journal.path = some bytes ∨
        (journal.writes % checkInterval = 0 ∧ maxRecords < (read bytes).length) ∧
          files.content? journal.path = some (reduced bytes) :=
      hcontent.imp_right fun ⟨hlong, hreduced⟩ => ⟨⟨hdue, hlong⟩, hreduced⟩
    have hattempt : ((compact journal.path).attempt).run s = (.ok result, { s with files }) := by
      rw [Act.run_attempt, hrun]
    rw [compactIfDue, if_pos hdue, Act.run_bind_of_ok hattempt]
    rcases result with fault | u
    · exact ⟨_, rfl, htree, hcontent'⟩
    · exact ⟨_, rfl, htree, hcontent'⟩
  · rw [compactIfDue, if_neg hdue]
    exact ⟨s, rfl, .rfl, .inl h⟩

variable {journal next : NotificationJournal} {r : NotificationRecord}

theorem run_append_ok (h : (journal.append r).run s = (.ok next, s'))
    (hopen : IsOpen journal.path s.files) :
    next = { journal with writes := journal.writes + 1 } ∧
      (s'.files.content? journal.path = some (s.files.held journal.path ++ line r.toJson) ∨
        (journal.writes % checkInterval = 0 ∧
          maxRecords < (read (s.files.held journal.path ++ line r.toJson)).length) ∧
        s'.files.content? journal.path =
          some (reduced (s.files.held journal.path ++ line r.toJson))) := by
  obtain ⟨u, s₁, hlock, h⟩ := Act.run_bind_ok h
  obtain ⟨u, s₂, happend, h⟩ := Act.run_bind_ok h
  obtain ⟨u, s₃, hcompact, h⟩ := Act.run_bind_ok h
  cases h
  obtain ⟨-, hlockable, -⟩ := run_lock_ok hlock
  obtain ⟨-, hwrites⟩ := Journal.run_append_ok happend
  have hheld := held_locked hlock hopen hwrites.admits
  obtain ⟨s₃', hrun, -, hcontent⟩ := run_compactIfDue journal (hlockable.sameTree hwrites.tree)
    hwrites.content?
  cases hcompact.symm.trans hrun
  rw [hheld] at hcontent
  exact ⟨rfl, hcontent⟩

theorem run_append_of_usable (h : Usable journal.path s) (r : NotificationRecord) :
    ∃ s', (journal.append r).run s = (.ok { journal with writes := journal.writes + 1 }, s') ∧
      ∀ event, Usable journal.path (s'.tell event) := by
  obtain ⟨s₁, hlock, hadmits, hspare⟩ := h
  obtain ⟨-, hlockable, -⟩ := run_lock_ok hlock
  obtain ⟨files, happend, hwrites⟩ := run_append hadmits r.toJson
  obtain ⟨s', hrun, htree, -⟩ := run_compactIfDue (s := { s₁ with files }) journal
    (hlockable.sameTree hwrites.tree) hwrites.content?
  have htree' : Files.SameTree s₁.files s'.files := hwrites.tree.trans htree
  refine ⟨s', ?_, fun event => usable_of_sameTree hlock htree' hadmits hspare⟩
  rw [append, Act.run_bind_of_ok hlock, Act.run_bind_of_ok happend, Act.run_bind_of_ok hrun]
  rfl

theorem run_append_reducing (h : Usable journal.path s) (hopen : IsOpen journal.path s.files)
    (hdue : journal.writes % checkInterval = 0)
    (hlong : maxRecords < (read (s.files.held journal.path ++ line r.toJson)).length)
    (hne : s.files.place (Path.spareFile journal.path) ≠ s.files.place journal.path) :
    ∃ s', (journal.append r).run s = (.ok { journal with writes := journal.writes + 1 }, s') ∧
      s'.files.node? (s.files.place (Path.spareFile journal.path)) = none := by
  obtain ⟨s₁, hlock, hadmits, hspare⟩ := h
  obtain ⟨-, -, files₁, hgrows, hwrites₁⟩ := run_lock_ok hlock
  obtain ⟨files, happend, hwrites⟩ := run_append hadmits r.toJson
  have hplace (other : String) : files.place other = s.files.place other :=
    (hwrites.tree.place other).trans ((hwrites₁.tree.place other).trans (hgrows.place other))
  have hcontent := hwrites.content?
  rw [held_locked hlock hopen hadmits] at hcontent
  have husable : Usable journal.path { s₁ with files } :=
    usable_of_sameTree hlock hwrites.tree hadmits hspare
  obtain ⟨s', hcompact⟩ := run_compact_of_usable husable hcontent
  have hattempt : ((compact journal.path).attempt).run { s₁ with files } =
      (.ok (.ok ()), s') := by
    rw [Act.run_attempt, hcompact]
  have hreduce : (compactIfDue journal).run { s₁ with files } = (.ok (), s') := by
    rw [compactIfDue, if_pos hdue, Act.run_bind_of_ok hattempt]
    rfl
  have hne' : files.place (Path.spareFile journal.path) ≠ files.place journal.path := by
    rw [hplace, hplace]
    exact hne
  refine ⟨s', ?_, ?_⟩
  · rw [append, Act.run_bind_of_ok hlock, Act.run_bind_of_ok happend, Act.run_bind_of_ok hreduce]
    rfl
  · rw [← hplace]
    exact spareFile_of_compact (s := { s₁ with files }) hcontent hcompact hlong hne'

theorem run_append_of_lockable (hlockable : Lockable journal.path s.files)
    (hadmits : s.files.admits journal.path = true) (r : NotificationRecord) :
    ∃ s', (journal.append r).run s = (.ok { journal with writes := journal.writes + 1 }, s') ∧
      Files.SameTree s.files s'.files := by
  obtain ⟨locked, hlock, htouched⟩ := run_lock hlockable
  have hadmits' : locked.admits journal.path = true := (htouched.tree.admits _).trans hadmits
  obtain ⟨files, happend, hwrites⟩ := run_append (s := { s with files := locked }) hadmits' r.toJson
  have htree : Files.SameTree s.files files := htouched.tree.trans hwrites.tree
  obtain ⟨s', hcompact, htree', -⟩ := run_compactIfDue (s := { s with files }) journal
    (hlockable.sameTree htree) hwrites.content?
  refine ⟨s', ?_, htree.trans htree'⟩
  rw [append, Act.run_bind_of_ok hlock, Act.run_bind_of_ok happend, Act.run_bind_of_ok hcompact]
  rfl

section Record

variable (event : LogEvent)

theorem usable_record (h : Usable journal.path s) (r : NotificationRecord) :
    ∃ s', (journal.record r event).run s =
        (.ok { journal with writes := journal.writes + 1 }, s') ∧
      Usable journal.path s' := by
  obtain ⟨s₁, happend, husable⟩ := run_append_of_usable h r
  exact ⟨_, run_record_of_append event happend, husable event⟩

theorem run_record (hlockable : Lockable journal.path s.files)
    (hadmits : s.files.admits journal.path = true) (r : NotificationRecord) :
    ∃ next s', (journal.record r event).run s = (.ok next, s') ∧
      Files.SameTree s.files s'.files := by
  obtain ⟨s₁, happend, htree⟩ := run_append_of_lockable hlockable hadmits r
  exact ⟨_, _, run_record_of_append event happend, htree⟩

end Record

section Requests

variable (now : Timestamp) (id : Int32) (n : Notification)

theorem usable_notify (h : Usable journal.path s) :
    ∃ s', (journal.notify now id n).run s = (.ok { journal with writes := journal.writes + 1 }, s') ∧
      Usable journal.path s' := by
  rw [notify_eq_record]
  exact usable_record _ h _

theorem usable_cancel (h : Usable journal.path s) :
    ∃ s', (journal.cancel now id).run s = (.ok { journal with writes := journal.writes + 1 }, s') ∧
      Usable journal.path s' := by
  rw [cancel_eq_record]
  exact usable_record _ h _

end Requests

theorem run_notify_ok {now : Timestamp} {id : Int32} {n : Notification}
    (h : (journal.notify now id n).run s = (.ok next, s')) :
    ∃ s₁, (journal.append ⟨now, .notify, id, some n⟩).run s = (.ok next, s₁) ∧
      s'.files = s₁.files := by
  rw [notify_eq_record] at h
  obtain ⟨s₁, happend, rfl⟩ := run_record_ok h
  exact ⟨s₁, happend, rfl⟩

theorem run_notify_locked {now : Timestamp} {id : Int32} {n : Notification}
    (h : (journal.notify now id n).run s = (.ok next, s')) :
    ∃ s₁, (lock journal.path).run s = (.ok (), s₁) ∧ s₁.files.admits journal.path = true := by
  obtain ⟨s₁, happend, -⟩ := run_notify_ok h
  obtain ⟨u, s₂, hlock, h⟩ := Act.run_bind_ok happend
  obtain ⟨u, s₃, happended, -⟩ := Act.run_bind_ok h
  exact ⟨s₂, hlock, (Journal.run_append_ok happended).2.admits⟩

theorem run_cancel_ok {now : Timestamp} {id : Int32}
    (h : (journal.cancel now id).run s = (.ok next, s')) :
    ∃ s₁, (journal.append ⟨now, .cancel, id, none⟩).run s = (.ok next, s₁) ∧
      s'.files = s₁.files := by
  rw [cancel_eq_record] at h
  obtain ⟨s₁, happend, rfl⟩ := run_record_ok h
  exact ⟨s₁, happend, rfl⟩

end CallNotice.NotificationJournal
