import CallNotice.Json.Fields
import CallNotice.Time.Json

namespace CallNotice

inductive CallType
  | incoming
  | outgoing
  | missed
  | voicemail
  deriving DecidableEq

namespace CallType

def all : List CallType := [.incoming, .outgoing, .missed, .voicemail]

def name : CallType → String
  | .incoming => "incoming"
  | .outgoing => "outgoing"
  | .missed => "missed"
  | .voicemail => "voicemail"

def toJson (t : CallType) : Json := .text t.name

def ofJson? (j : Json) : Option CallType := j.choice? (all.map fun t => (t.name, t))

end CallType

structure CallLogEntry where
  id : UInt64
  number : String
  name : Option String
  type : CallType
  date : Timestamp
  seconds : UInt64
  isNew : Bool
  isRead : Bool
  deriving DecidableEq

namespace CallLogEntry

/-- A missed call that nobody has seen yet. The log that takes it gives it its id. -/
def missed (number : String) (name : Option String) (date : Timestamp) : CallLogEntry :=
  ⟨0, number, name, .missed, date, 0, true, false⟩

def toJson (e : CallLogEntry) : Json :=
  .obj <| Json.field "id" (.ofNat e.id.toNat) ++ Json.field "number" (.text e.number) ++
    Json.field? "name" (e.name.map Json.text) ++ Json.field "type" e.type.toJson ++
    Json.field "date" e.date.toJson ++ Json.field "duration_secs" (.ofNat e.seconds.toNat) ++
    Json.field "new" (.bool e.isNew) ++ Json.field "is_read" (.bool e.isRead)

def fieldNames : List String :=
  ["id", "number", "name", "type", "date", "duration_secs", "new", "is_read"]

def ofJson? (j : Json) : Option CallLogEntry := do
  let fields ← j.fields? fieldNames
  let id ← fields.required "id" Json.uint64?
  let number ← fields.required "number" Json.string?
  let name ← fields.optional "name" Json.string?
  let type ← fields.required "type" CallType.ofJson?
  let date ← fields.required "date" Timestamp.ofJson?
  let seconds ← fields.withDefault "duration_secs" 0 Json.uint64?
  let isNew ← fields.withDefault "new" false Json.bool?
  let isRead ← fields.withDefault "is_read" false Json.bool?
  return { id, number, name, type, date, seconds, isNew, isRead }

end CallLogEntry

structure CallLogFilter where
  isNew : Option Bool
  type : Option CallType
  deriving DecidableEq

namespace CallLogFilter

def all : CallLogFilter := ⟨none, none⟩

def newMissed : CallLogFilter := ⟨some true, some .missed⟩

def accepts (f : CallLogFilter) (e : CallLogEntry) : Bool :=
  (f.isNew.all fun b => e.isNew = b) && f.type.all fun t => e.type = t

end CallLogFilter

structure CallLogUpdate where
  isNew : Option Bool
  isRead : Option Bool
  deriving DecidableEq

namespace CallLogUpdate

def markRead : CallLogUpdate := ⟨some false, some true⟩

def apply (u : CallLogUpdate) (e : CallLogEntry) : CallLogEntry :=
  { e with isNew := u.isNew.getD e.isNew, isRead := u.isRead.getD e.isRead }

end CallLogUpdate

end CallNotice
