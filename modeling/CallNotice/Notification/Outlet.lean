import CallNotice.Notification.Sink

namespace CallNotice

inductive Outlet
  | direct (sink : Sink)
  | dispatcher (sinks : List Sink) (dryRun : Bool)
  deriving DecidableEq

namespace Outlet

def name : Outlet → String
  | direct s => s.name
  | dispatcher .. => "dispatcher"

def sinks : Outlet → List Sink
  | direct s => [s]
  | dispatcher sinks _ => sinks

def turn (act : Act Sink) (failed : Fault → LogEvent) (sink : Sink) : Act Sink := do
  match ← act.attempt with
  | .ok next => return next
  | .error fault =>
    Act.tell (failed fault)
    return sink

def announce (line : Sink → String) (sink : Sink) : Act Sink := do
  Act.say (line sink)
  return sink

def postLine (id : Int32) (sink : Sink) : String :=
  "[DRY-RUN] Would post notification " ++ toString id.toInt ++ " to sink: " ++ sink.name

def withdrawLine (id : Int32) (sink : Sink) : String :=
  "[DRY-RUN] Would cancel notification " ++ toString id.toInt ++ " on sink: " ++ sink.name

def notify (now : Timestamp) (id : Int32) (n : Notification) : Outlet → Act Outlet
  | direct s => return direct (← s.notify now id n)
  | dispatcher sinks true => return dispatcher (← sinks.mapM (announce (postLine id))) true
  | dispatcher sinks false =>
    return dispatcher
      (← sinks.mapM fun s => turn (s.notify now id n) (.sinkPostFailed s.name id) s) false

def cancel (now : Timestamp) (id : Int32) : Outlet → Act Outlet
  | direct s => return direct (← s.cancel now id)
  | dispatcher sinks true => return dispatcher (← sinks.mapM (announce (withdrawLine id))) true
  | dispatcher sinks false =>
    return dispatcher
      (← sinks.mapM fun s => turn (s.cancel now id) (.sinkWithdrawFailed s.name id) s) false

end Outlet

end CallNotice
