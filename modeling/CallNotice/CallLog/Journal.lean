import CallNotice.CallLog.Rows
import CallNotice.Files.Journal

namespace CallNotice.CallLogJournal

def rows (path : String) (files : Files) : Rows := Journal.values CallLogEntry.ofJson? path files

/-- Changes the accepted rows and tells how many they were. The file is written only if there was
one to change; then rows that cannot be read are left out. -/
def update (path : String) (filter : CallLogFilter) (values : CallLogUpdate) : Act Nat := do
  if !(← Act.readFiles (·.holds path)) then return 0
  Journal.seize path
  let rows ← Act.readFiles (rows path)
  let updated := rows.count filter
  if updated = 0 then return 0
  Journal.replace path ((rows.update filter values).map CallLogEntry.toJson)
  Act.tell (.rowsUpdated path updated)
  return updated

/-- An update of a directory takes the lock and reads for ever. -/
def updateEnds (path : String) (s : Scene) : Bool :=
  match s.files.holds path, (Journal.seize path).run s with
  | true, (.ok _, s) => Journal.Ends path s.files
  | _, _ => true

def insert (path : String) (entry : CallLogEntry) : Act UInt64 := do
  Journal.lock path
  Act.onFiles (·.touch path)
  let id := (← Act.readFiles (rows path)).nextId
  Journal.append path { entry with id := id }.toJson
  return id

end CallNotice.CallLogJournal
