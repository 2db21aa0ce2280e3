import CallNotice.Host.Basic

namespace CallNotice

inductive Effect
  | openCallLog
  | cleared
  | dial (handle : Handle)
  | composeMessage (handle : Handle)
  deriving DecidableEq

namespace Effect

def name : Effect → String
  | openCallLog => "open_call_log"
  | cleared => "cleared"
  | dial _ => "dial"
  | composeMessage _ => "compose_sms"

def handle? : Effect → Option Handle
  | dial handle | composeMessage handle => some handle
  | _ => none

def toJson (e : Effect) : Json :=
  .obj <| Json.field "effect" (.text e.name) ++ Json.field? "uri" (e.handle?.map Handle.toJson)

end Effect

namespace Intent

def reach (i : Intent) (effect : Handle → Effect) : Except Fault Effect :=
  match i.data.filter fun handle => !handle.isEmpty with
  | some handle => .ok (effect handle)
  | none => .error (.handleRequired i.action)

def effect (i : Intent) : Except Fault Effect :=
  match i.action with
  | .viewCallLog => .ok .openCallLog
  | .clearMissedCalls => .ok .cleared
  | .callBack => i.reach .dial
  | .sendMessage => i.reach .composeMessage

def clears (i : Intent) : Bool := i.action ≠ .viewCallLog

end Intent

def IntentAction.ofText (s : String) : Except Fault IntentAction :=
  match ofName? (Text.trim s) with
  | some action => .ok action
  | none => .error (.unknownAction (Text.trim s))

namespace Host

def receive (now : Timestamp) (i : Intent) (h : Host) : Except Fault Effect × Host :=
  let h := h.tell (.actionReceived i.action)
  match i.effect with
  | .ok effect => (.ok effect, if i.clears then h.clear now else h)
  | .error fault => (.error fault, h)

def receiveAction (now : Timestamp) (name : String) (data : Option String) (h : Host) :
    Except Fault Effect × Host :=
  match IntentAction.ofText name with
  | .ok action => h.receive now (.broadcast action (data.map Handle.ofText))
  | .error fault => (.error fault, h)

end Host

end CallNotice
