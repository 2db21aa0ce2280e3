import CallNotice.Host.Receiver

namespace CallNotice

inductive HostStep
  | event (event : CallEvent)
  | added (call : Call)
  | removed (call : Call)
  /-- A missed call is shown, whoever found out about it. -/
  | showMissed (call : Call)
  | clear
  | receive (intent : Intent)
  | receiveAction (name : String) (data : Option String)
  | notify (id : Int32) (notification : Notification)
  | cancel (id : Int32)
  | insert (entry : CallLogEntry)
  | update (filter : CallLogFilter) (values : CallLogUpdate)
  | query (filter : CallLogFilter)
  deriving DecidableEq

inductive HostReply
  | nothing
  | effect (effect : Effect)
  | id (id : UInt64)
  | updated (rows : Nat)
  | rows (rows : Rows)
  deriving DecidableEq

namespace Host

abbrev Answer := Except Fault HostReply × Host

def quietly (h : Host) : Answer := (.ok .nothing, h)

def reply {α : Type} (form : α → HostReply) (r : Except Fault α × Host) : Answer :=
  (r.1.map form, r.2)

@[simp] theorem snd_reply {α : Type} (form : α → HostReply) (r : Except Fault α × Host) :
    (reply form r).2 = r.2 := rfl

def step (now : Timestamp) (h : Host) : HostStep → Answer
  | .event event => quietly (h.changeState now event)
  | .added call => quietly (h.addCall call)
  | .removed call => quietly (h.removeCall call)
  | .showMissed call => quietly (h.showMissed now call)
  | .clear => quietly (h.clear now)
  | .receive intent => reply .effect (h.receive now intent)
  | .receiveAction name data => reply .effect (h.receiveAction now name data)
  | .notify id n => reply (fun _ => .nothing) (h.notify now id n)
  | .cancel id => reply (fun _ => .nothing) (h.cancel now id)
  | .insert entry => reply .id (h.insert entry)
  | .update filter values => reply .updated (h.update filter values)
  | .query filter => reply .rows (h.query filter)

def run (h : Host) (steps : List (Timestamp × HostStep)) : Host :=
  steps.foldl (fun h (now, s) => (h.step now s).2) h

end Host

end CallNotice
