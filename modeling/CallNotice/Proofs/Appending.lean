import CallNotice.Proofs.CallLog.Journal
import CallNotice.Proofs.Notification.Journal

/-!
When an append to a journal loses nothing. The writers put their line behind whatever stands at the
end of the file, so the new record and the one before it are read only if nothing but blanks stood
behind the last line feed.
-/

namespace CallNotice

open Journal

namespace CallLogJournal

variable {path : String} {s s' : Scene} {e : CallLogEntry} {id : UInt64}

theorem insert_iff_endsBlank (h : (insert path e).run s = (.ok id, s'))
    (hopen : IsOpen path s.files) :
    (rows path s'.files = rows path s.files ++ [{ e with id := id }] ↔
        EndsBlank (s.files.held path)) ∧
      (¬EndsBlank (s.files.held path) →
        rows path s'.files = ended CallLogEntry.ofJson? (s.files.held path)) := by
  obtain ⟨-, hcontent⟩ := run_insert_ok h hopen
  have hkey : Json.IsPlainKey "id" := ⟨List.all_eq_true.mp rfl, by decide, rfl⟩
  have hrows : rows path s'.files = ofContent CallLogEntry.ofJson?
      (s.files.held path ++ line { e with id := id }.toJson) := by
    rw [rows, values_eq, Files.held_of_content? hcontent]
  rw [hrows, rows, values_eq]
  constructor
  · exact ofContent_append_iff _ hkey (CallLogEntry.ofJson?_toJson { e with id := id }) _
  · exact fun hblank => ofContent_append_torn _ hblank hkey _ _

end CallLogJournal

namespace NotificationJournal

variable {journal next : NotificationJournal} {s s' : Scene} {r : NotificationRecord}

def KeepsAll (journal : NotificationJournal) (bytes : ByteArray) (r : NotificationRecord) : Prop :=
  journal.writes % checkInterval = 0 → (read (bytes ++ line r.toJson)).length ≤ maxRecords

theorem append_iff_endsBlank (h : (journal.append r).run s = (.ok next, s'))
    (hopen : IsOpen journal.path s.files) (hread : ∀ n ∈ r.notification, n.IsReadBack)
    (hkeeps : journal.KeepsAll (s.files.held journal.path) r) :
    (records journal.path s'.files = records journal.path s.files ++ [r] ↔
        EndsBlank (s.files.held journal.path)) ∧
      (¬EndsBlank (s.files.held journal.path) →
        records journal.path s'.files =
          ended NotificationRecord.ofJson? (s.files.held journal.path)) := by
  obtain ⟨-, hcontent | ⟨⟨hdue, hlong⟩, -⟩⟩ := run_append_ok h hopen
  · have hkey : Json.IsPlainKey "ts" := ⟨List.all_eq_true.mp rfl, by decide, rfl⟩
    have hrecords : records journal.path s'.files = ofContent NotificationRecord.ofJson?
        (s.files.held journal.path ++ line r.toJson) := by
      rw [records_eq, Files.held_of_content? hcontent]
      rfl
    rw [hrecords, records_eq]
    constructor
    · exact ofContent_append_iff _ hkey (NotificationRecord.ofJson?_toJson hread) _
    · exact fun hblank => ofContent_append_torn _ hblank hkey _ _
  · exact absurd (hkeeps hdue) (Nat.not_le_of_lt hlong)

end NotificationJournal

/-- Exactly when nothing but blanks stood behind the last line feed does an insertion, a post or a
withdrawal keep all that could be read and add what it wrote. Otherwise what could be read in the
lines that were ended is all that is left. -/
theorem append_loses_nothing_iff_endsBlank {s s' : Scene} :
    (∀ {path : String} {e : CallLogEntry} {id : UInt64},
      (CallLogJournal.insert path e).run s = (.ok id, s') → IsOpen path s.files →
      (CallLogJournal.rows path s'.files =
          CallLogJournal.rows path s.files ++ [{ e with id := id }] ↔
        EndsBlank (s.files.held path)) ∧
      (¬EndsBlank (s.files.held path) →
        CallLogJournal.rows path s'.files =
          ended CallLogEntry.ofJson? (s.files.held path))) ∧
    ∀ {journal next : NotificationJournal} {now : Timestamp} {id : Int32} {r : NotificationRecord},
      ((∃ n j, Notification.ofJson? j = some n ∧ r = ⟨now, .notify, id, some n⟩ ∧
          (journal.notify now id n).run s = (.ok next, s')) ∨
        r = ⟨now, .cancel, id, none⟩ ∧ (journal.cancel now id).run s = (.ok next, s')) →
      IsOpen journal.path s.files → journal.KeepsAll (s.files.held journal.path) r →
      (NotificationJournal.records journal.path s'.files =
          NotificationJournal.records journal.path s.files ++ [r] ↔
        EndsBlank (s.files.held journal.path)) ∧
      (¬EndsBlank (s.files.held journal.path) →
        NotificationJournal.records journal.path s'.files =
          ended NotificationRecord.ofJson? (s.files.held journal.path)) := by
  constructor
  · intro path e id h hopen
    exact CallLogJournal.insert_iff_endsBlank h hopen
  · rintro journal next now id r h hopen hkeeps
    rcases h with ⟨n, j, hj, rfl, hnotify⟩ | ⟨rfl, hcancel⟩
    · obtain ⟨s₁, happend, hfiles⟩ := NotificationJournal.run_notify_ok hnotify
      rw [hfiles]
      apply NotificationJournal.append_iff_endsBlank happend hopen _ hkeeps
      rintro _ ⟨⟩
      exact Notification.isReadBack_of_ofJson? hj
    · obtain ⟨s₁, happend, hfiles⟩ := NotificationJournal.run_cancel_ok hcancel
      rw [hfiles]
      apply NotificationJournal.append_iff_endsBlank happend hopen _ hkeeps
      intro n hn
      cases hn

theorem append_loses_after_torn_brace :
    let torn := (Files.blank ["home"]).put ["home", "calls.jsonl"] (.file ⟨#[0x7b]⟩)
    let row := CallLogEntry.missed "555" none ⟨⟨2024, 1, 2, by decide⟩, 3, 4, 5, 0, by decide⟩
    ∃ id s', (CallLogJournal.insert "calls.jsonl" row).run (.ofFiles torn) = (.ok id, s') ∧
      CallLogJournal.rows "calls.jsonl" s'.files = [] := by
  intro torn row
  have hheld : torn.content? "calls.jsonl" = some ⟨#[0x7b]⟩ := by decide
  have hlock : (lock "calls.jsonl").run (.ofFiles torn) =
      (.ok (), .ofFiles (torn.put ["home", "calls.jsonl.lock"] (.file .empty))) := by decide
  obtain ⟨id, files, hinsert, -⟩ := CallLogJournal.run_insert hlock (by decide) row
  refine ⟨id, _, hinsert, ?_⟩
  have hlost := (append_loses_nothing_iff_endsBlank.1 hinsert (.inr ⟨_, hheld⟩)).2
  have hended : (Scene.ofFiles torn).files.held "calls.jsonl" = ⟨#[0x7b]⟩ :=
    Files.held_of_content? hheld
  rw [hended] at hlost
  exact hlost (by decide)

end CallNotice
