import CallNotice.CallLog.Store
import CallNotice.Notification.Outlet
import CallNotice.Notifier

namespace CallNotice

inductive Listener
  | notifier
  | recorder
  | probe (name : String)
  deriving DecidableEq

def Listener.name : Listener → String
  | .notifier => "missed_call_notifier"
  | .recorder => "call_log_recorder"
  | .probe name => name

structure Host where
  scene : Scene
  store : CallLogStore
  outlet : Outlet
  notifier : Notifier
  listeners : List Listener
  /-- What the probes have noted. -/
  told : List String
  deriving DecidableEq

namespace Host

def create (files : Files) (store : CallLogStore) (outlet : Outlet) (notifier : Notifier) : Host :=
  ⟨.ofFiles files, store, outlet, notifier, [], []⟩

def rows (h : Host) : Rows := h.store.rows h.scene.files

def count (h : Host) : UInt32 := h.notifier.count

def tell (event : LogEvent) (h : Host) : Host := { h with scene := h.scene.tell event }

def note (text : String) (h : Host) : Host := { h with told := h.told ++ [text] }

def setCount (count : UInt32) (h : Host) : Host := { h with notifier := { h.notifier with count } }

def tellSinks (h : Host) : Host :=
  match h.outlet with
  | .direct _ => h
  | .dispatcher sinks _ => sinks.foldl (fun h s => h.tell (.sinkRegistered s.name)) h

def register (h : Host) (listener : Listener) : Host :=
  { h with listeners := h.listeners ++ [listener] }.tell (.listenerRegistered listener.name)

def registerAll (listeners : List Listener) (h : Host) : Host := listeners.foldl register h

section Operations

variable (now : Timestamp)

def notify (id : Int32) (n : Notification) (h : Host) : Except Fault Unit × Host :=
  match (h.outlet.notify now id n).run h.scene with
  | (.ok outlet, scene) => (.ok (), { h with outlet, scene })
  | (.error fault, scene) => (.error fault, { h with scene })

def cancel (id : Int32) (h : Host) : Except Fault Unit × Host :=
  match (h.outlet.cancel now id).run h.scene with
  | (.ok outlet, scene) => (.ok (), { h with outlet, scene })
  | (.error fault, scene) => (.error fault, { h with scene })

def update (filter : CallLogFilter) (values : CallLogUpdate) (h : Host) : Except Fault Nat × Host :=
  match (h.store.update filter values).run h.scene with
  | (.ok (updated, store), scene) => (.ok updated, { h with store, scene })
  | (.error fault, scene) => (.error fault, { h with scene })

def query (filter : CallLogFilter) (h : Host) : Except Fault Rows × Host :=
  match (h.store.query filter).run h.scene with
  | (result, scene) => (result, { h with scene })

def insert (entry : CallLogEntry) (h : Host) : Except Fault UInt64 × Host :=
  match (h.store.insert entry).run h.scene with
  | (.ok (id, store), scene) => (.ok id, { h with store, scene })
  | (.error fault, scene) => (.error fault, { h with scene })

def markRead (h : Host) : Host :=
  match h.update .newMissed .markRead with
  | (.ok updated, h) => h.tell (.markedRead updated)
  | (.error fault, h) => h.tell (.markReadFailed fault)

def withdrawNotice (h : Host) : Host :=
  match h.cancel now Notifier.noticeId with
  | (.ok _, h) => h
  | (.error fault, h) => h.tell (.withdrawFailed h.outlet.name fault)

def postNotice (n : Notification) (h : Host) : Host :=
  match h.notify now Notifier.noticeId n with
  | (.ok _, h) => h
  | (.error fault, h) => h.tell (.postFailed h.outlet.name fault)

def clear (h : Host) : Host :=
  ((h.markRead.setCount 0).withdrawNotice now).tell (.cleared h.count)

def clearEnds (h : Host) : Bool := h.store.updateEnds h.scene

def showMissed (call : Call) (h : Host) : Host :=
  let missed := h.count + 1
  let h := (h.setCount missed).tell (h.notifier.composeEvent call missed)
  match h.notifier.compose call missed with
  | .ok n => (h.tell (.notificationAdded call.describe missed)).postNotice now n
  | .error fault => h.tell (.composeFailed fault)

def rowFor (call : Call) : CallLogEntry :=
  .missed call.handle.address (call.name.filter fun name => !Text.isBlankText name) call.created

def record (call : Call) (h : Host) : Host :=
  match h.insert (rowFor call) with
  | (.ok id, h) => h.tell (.callRecorded id)
  | (.error fault, h) => h.tell (.recordFailed fault)

def hear (event : CallEvent) (h : Host) : Listener → Host
  | .notifier => if event.isMissed then h.showMissed now event.call else h
  | .recorder => if event.isMissed then h.record event.call else h
  | .probe name => h.note (name ++ ":" ++ event.before.label ++ "->" ++ event.after.label ++ " " ++
      event.call.handle.toText)

def changeState (event : CallEvent) (h : Host) : Host :=
  h.listeners.foldl (hear now event) <|
    h.tell (.stateChanged event.call.describe event.before event.after h.listeners.length)

def replay (events : List CallEvent) (h : Host) : Host :=
  events.foldl (fun h event => h.changeState now event) h

end Operations

def tellProbes (what : String) (call : Call) (h : Host) : Host :=
  h.listeners.foldl (fun h listener =>
    match listener with
    | .probe name => h.note (name ++ ":" ++ what ++ " " ++ call.handle.toText)
    | _ => h) h

def addCall (call : Call) (h : Host) : Host := h.tellProbes "added" call

def removeCall (call : Call) (h : Host) : Host := h.tellProbes "removed" call

end Host

end CallNotice
