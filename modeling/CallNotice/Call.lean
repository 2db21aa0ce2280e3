import CallNotice.Handle
import CallNotice.Picture
import CallNotice.Time.Json

namespace CallNotice

inductive CallState
  | new
  | connecting
  | preDialWait
  | dialing
  | ringing
  | active
  | onHold
  | disconnected
  | aborted
  deriving DecidableEq

namespace CallState

def all : List CallState :=
  [.new, .connecting, .preDialWait, .dialing, .ringing, .active, .onHold, .disconnected, .aborted]

/-- The name in records. -/
def name : CallState → String
  | .new => "new"
  | .connecting => "connecting"
  | .preDialWait => "pre_dial_wait"
  | .dialing => "dialing"
  | .ringing => "ringing"
  | .active => "active"
  | .onHold => "on_hold"
  | .disconnected => "disconnected"
  | .aborted => "aborted"

/-- The name in logs. -/
def label (s : CallState) : String := String.ofList (s.name.toList.map Char.toUpper)

def toJson (s : CallState) : Json := .text s.name

def ofJson? (j : Json) : Option CallState := j.choice? (all.map fun s => (s.name, s))

end CallState

inductive DisconnectCause
  | notDisconnected
  | normal
  | localHangUp
  | busy
  | incomingMissed
  | incomingRejected
  | error
  | other (code : Int32)
  deriving DecidableEq

namespace DisconnectCause

def plain : List DisconnectCause :=
  [.notDisconnected, .normal, .localHangUp, .busy, .incomingMissed, .incomingRejected, .error]

def name : DisconnectCause → String
  | .notDisconnected => "not_disconnected"
  | .normal => "normal"
  | .localHangUp => "local"
  | .busy => "busy"
  | .incomingMissed => "incoming_missed"
  | .incomingRejected => "incoming_rejected"
  | .error => "error"
  | .other _ => "other"

def label : DisconnectCause → String
  | .notDisconnected => "NotDisconnected"
  | .normal => "Normal"
  | .localHangUp => "Local"
  | .busy => "Busy"
  | .incomingMissed => "IncomingMissed"
  | .incomingRejected => "IncomingRejected"
  | .error => "Error"
  | .other code => "Other(" ++ toString code.toInt ++ ")"

def toJson : DisconnectCause → Json
  | .other code => .obj (Json.field "other" (.int code.toInt))
  | cause => .text cause.name

def ofJson? (j : Json) : Option DisconnectCause :=
  match j.case? with
  | some ("other", some content) => content.int32?.map .other
  | _ => j.choice? (plain.map fun c => (c.name, c))

end DisconnectCause

structure Call where
  handle : Handle
  name : Option String
  created : Timestamp
  cause : DisconnectCause
  photoIcon : Option Bitmap
  photo : Option Photo
  deriving DecidableEq

namespace Call

def largeIcon? (c : Call) : Option Bitmap := c.photoIcon.or (c.photo.bind Photo.bitmap?)

def isMissed (c : Call) (before after : CallState) : Bool :=
  before = .ringing && after = .disconnected && c.cause = .incomingMissed

def describe (c : Call) : String :=
  "[Call handle: " ++ c.handle.redacted ++ ", cause: " ++ c.cause.label ++ ", created: " ++
    c.created.toOffsetText ++ "]"

def toJson (c : Call) : Json :=
  .obj <| Json.field "handle" c.handle.toJson ++ Json.field "name" (.ofOption .text c.name) ++
    Json.field "creation_time" c.created.toJson ++ Json.field "disconnect_cause" c.cause.toJson ++
    Json.field? "photo_icon" (c.photoIcon.map Bitmap.toJson) ++
    Json.field? "photo" (c.photo.map Photo.toJson)

def fieldNames : List String :=
  ["handle", "name", "creation_time", "disconnect_cause", "photo_icon", "photo"]

def ofJson? (now : Timestamp) (room : Nat) (j : Json) : Option Call := do
  let fields ← j.fields? fieldNames
  let handle ← fields.withDefault "handle" Handle.none Handle.ofJson?
  let name ← fields.optional "name" Json.string?
  let created ← fields.withDefault "creation_time" now Timestamp.ofJson?
  let cause ← fields.withDefault "disconnect_cause" .notDisconnected DisconnectCause.ofJson?
  let photoIcon ← fields.optional "photo_icon" Bitmap.ofJson?
  let photo ← fields.optional "photo" (Photo.ofJson? (room - 1))
  return { handle, name, created, cause, photoIcon, photo }

end Call

structure CallEvent where
  call : Call
  before : CallState
  after : CallState
  deriving DecidableEq

namespace CallEvent

def isMissed (e : CallEvent) : Bool := e.call.isMissed e.before e.after

def toJson (e : CallEvent) : Json :=
  .obj <| Json.field "call" e.call.toJson ++ Json.field "old_state" e.before.toJson ++
    Json.field "new_state" e.after.toJson

def ofJson? (now : Timestamp) (room : Nat) (j : Json) : Option CallEvent := do
  let fields ← j.fields? ["call", "old_state", "new_state"]
  let call ← fields.required "call" (Call.ofJson? now (room - 1))
  let before ← fields.required "old_state" CallState.ofJson?
  let after ← fields.required "new_state" CallState.ofJson?
  return { call, before, after }

end CallEvent

end CallNotice
