import CallNotice.Handle

namespace CallNotice

inductive IntentAction
  | viewCallLog
  | clearMissedCalls
  | callBack
  | sendMessage
  deriving DecidableEq

namespace IntentAction

def all : List IntentAction := [.viewCallLog, .clearMissedCalls, .callBack, .sendMessage]

/-- The full name, under which the platform knows the action. -/
def identifier : IntentAction → String
  | .viewCallLog => "android.intent.action.VIEW"
  | .clearMissedCalls => "com.android.telecomm.ACTION_CLEAR_MISSED_CALLS"
  | .callBack => "com.android.telecomm.ACTION_CALL_BACK_FROM_NOTIFICATION"
  | .sendMessage => "com.android.telecomm.ACTION_SEND_SMS_FROM_NOTIFICATION"

def name : IntentAction → String
  | .viewCallLog => "view_call_log"
  | .clearMissedCalls => "clear_missed_calls"
  | .callBack => "call_back_from_notification"
  | .sendMessage => "send_sms_from_notification"

def ofName? (s : String) : Option IntentAction := all.find? fun a => a.identifier = s || a.name = s

def toJson (a : IntentAction) : Json := .text a.name

def ofJson? (j : Json) : Option IntentAction := j.choice? (all.map fun a => (a.name, a))

end IntentAction

inductive IntentTarget
  | activity
  | broadcast
  deriving DecidableEq

namespace IntentTarget

def all : List IntentTarget := [.activity, .broadcast]

def name : IntentTarget → String
  | .activity => "activity"
  | .broadcast => "broadcast"

def toJson (t : IntentTarget) : Json := .text t.name

def ofJson? (j : Json) : Option IntentTarget := j.choice? (all.map fun t => (t.name, t))

end IntentTarget

structure Intent where
  action : IntentAction
  data : Option Handle
  mimeType : Option String
  target : IntentTarget
  deriving DecidableEq

namespace Intent

def broadcast (action : IntentAction) (data : Option Handle) : Intent :=
  ⟨action, data, none, .broadcast⟩

def viewCallLog : Intent :=
  ⟨.viewCallLog, none, some "vnd.android.cursor.dir/calls", .activity⟩

def clearMissedCalls : Intent := broadcast .clearMissedCalls none

def callBack (handle : Handle) : Intent := broadcast .callBack (some handle)

def sendMessage (handle : Handle) : Intent :=
  broadcast .sendMessage (some (.ofParts "smsto" handle.address))

def toJson (i : Intent) : Json :=
  .obj <| Json.field "action" i.action.toJson ++ Json.field? "data" (i.data.map Handle.toJson) ++
    Json.field? "mime_type" (i.mimeType.map Json.text) ++ Json.field "target" i.target.toJson

def ofJson? (j : Json) : Option Intent := do
  let fields ← j.fields? ["action", "data", "mime_type", "target"]
  let action ← fields.required "action" IntentAction.ofJson?
  let data ← fields.optional "data" Handle.ofJson?
  let mimeType ← fields.optional "mime_type" Json.string?
  let target ← fields.required "target" IntentTarget.ofJson?
  return { action, data, mimeType, target }

end Intent

end CallNotice
