import CallNotice.Files.Journal
import CallNotice.Notification.Board
import CallNotice.Notification.Record

namespace CallNotice

structure NotificationJournal where
  path : String
  /-- Records written since the journal was opened. -/
  writes : Nat
  deriving DecidableEq

namespace NotificationJournal

def maxRecords : Nat := 200

/-- The length is looked at after the first of every so many writes. -/
def checkInterval : Nat := 10

def records (path : String) (files : Files) : List NotificationRecord :=
  Journal.values NotificationRecord.ofJson? path files

/-- What one record does to the board. A post without a notification shows nothing new. -/
def replay (board : Board Notification) (r : NotificationRecord) : Board Notification :=
  match r.kind, r.notification with
  | .notify, some n => board.insert r.id n
  | .notify, none => board
  | .cancel, _ => board.erase r.id

def activeOf (records : List NotificationRecord) : Board Notification :=
  records.foldl replay .empty

def active (path : String) (files : Files) : Board Notification := activeOf (records path files)

/-- Keeps the last post of each id that was not withdrawn after it. -/
def keepLatest (latest : Board NotificationRecord) (r : NotificationRecord) :
    Board NotificationRecord :=
  match r.kind with
  | .notify => latest.insert r.id r
  | .cancel => latest.erase r.id

def latestOf (records : List NotificationRecord) : List NotificationRecord :=
  (records.foldl keepLatest .empty).map Prod.snd

def compact (path : String) : Act Unit := do
  Journal.seize path
  let records ← Act.readFiles (records path)
  if maxRecords < records.length then
    Journal.replace path ((latestOf records).map NotificationRecord.toJson)

def compactIfDue (journal : NotificationJournal) : Act Unit := do
  if journal.writes % checkInterval = 0 then
    match ← (compact journal.path).attempt with
    | .ok _ => pure ()
    | .error fault => Act.tell (.compactionSkipped journal.path fault)

def append (record : NotificationRecord) (journal : NotificationJournal) :
    Act NotificationJournal := do
  Journal.lock journal.path
  Journal.append journal.path record.toJson
  compactIfDue journal
  return { journal with writes := journal.writes + 1 }

def notify (now : Timestamp) (id : Int32) (n : Notification) (journal : NotificationJournal) :
    Act NotificationJournal := do
  let next ← journal.append ⟨now, .notify, id, some n⟩
  Act.tell (.postRecorded id journal.path)
  return next

def cancel (now : Timestamp) (id : Int32) (journal : NotificationJournal) :
    Act NotificationJournal := do
  let next ← journal.append ⟨now, .cancel, id, none⟩
  Act.tell (.withdrawalRecorded id journal.path)
  return next

end NotificationJournal

end CallNotice
