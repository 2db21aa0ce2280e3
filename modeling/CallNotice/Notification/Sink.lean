import CallNotice.Notification.Journal

namespace CallNotice

inductive SinkRequest
  | notify (id : Int32) (notification : Notification)
  | cancel (id : Int32)
  deriving DecidableEq

structure MemorySink where
  active : Board Notification
  history : List SinkRequest
  deriving DecidableEq

namespace MemorySink

def empty : MemorySink := ⟨.empty, []⟩

def notify (id : Int32) (n : Notification) (s : MemorySink) : MemorySink :=
  ⟨s.active.insert id n, s.history ++ [.notify id n]⟩

def cancel (id : Int32) (s : MemorySink) : MemorySink :=
  ⟨s.active.erase id, s.history ++ [.cancel id]⟩

def postCount (s : MemorySink) : Nat :=
  s.history.countP fun
    | .notify .. => true
    | .cancel _ => false

end MemorySink

inductive Sink
  | memory (sink : MemorySink)
  | log
  | journal (journal : NotificationJournal)
  | unavailable
  deriving DecidableEq

namespace Sink

def name : Sink → String
  | memory _ => "memory"
  | log => "log"
  | journal _ => "file"
  | unavailable => "failing"

def notify (now : Timestamp) (id : Int32) (n : Notification) : Sink → Act Sink
  | memory s => return memory (s.notify id n)
  | log => do
    Act.tell (.posted id n.title (n.buttons.map Button.title) n.largeIcon.isSome)
    return log
  | journal j => return journal (← j.notify now id n)
  | unavailable => throw .noNotificationService

def cancel (now : Timestamp) (id : Int32) : Sink → Act Sink
  | memory s => return memory (s.cancel id)
  | log => do
    Act.tell (.withdrawn id)
    return log
  | journal j => return journal (← j.cancel now id)
  | unavailable => throw .noNotificationService

end Sink

end CallNotice
