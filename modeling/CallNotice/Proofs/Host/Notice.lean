import CallNotice.Host.Step

namespace CallNotice

namespace Notifier

def singleNotice (p : Notifier) (call : Call) : Notification where
  smallIcon := Notification.missedCallIcon
  moment := call.created
  title := p.phrases.missedCallTitle
  text := p.callerText call
  contentIntent := .viewCallLog
  deleteIntent := some .clearMissedCalls
  autoCancel := true
  buttons := [p.callBackButton call, p.messageButton call]
  largeIcon := call.largeIcon?
  showLights := true
  defaultLights := true

def aggregateNotice (p : Notifier) (call : Call) (missed : UInt32) : Notification where
  smallIcon := Notification.missedCallIcon
  moment := call.created
  title := p.phrases.missedCallsTitle
  text := p.phrases.countMessage missed
  contentIntent := .viewCallLog
  deleteIntent := some .clearMissedCalls
  autoCancel := true
  buttons := []
  largeIcon := none
  showLights := true
  defaultLights := true

variable (p : Notifier) (call : Call) (missed : UInt32)

theorem compose_single : p.compose call 1 = .ok (p.singleNotice call) := by
  unfold compose parts singleParts
  cases hicon : call.largeIcon? with
  | none =>
    unfold singleNotice
    rw [hicon]
    rfl
  | some bitmap =>
    unfold singleNotice
    rw [hicon]
    rfl

theorem compose_aggregate (h : missed ≠ 1) :
    p.compose call missed = .ok (p.aggregateNotice call missed) := by
  unfold compose parts title text aggregateNotice
  simp only [h, if_false]
  rfl

def notice : Notification :=
  if missed = 1 then p.singleNotice call else p.aggregateNotice call missed

theorem compose_eq : p.compose call missed = .ok (p.notice call missed) := by
  unfold notice
  by_cases h : missed = 1
  · rw [if_pos h, h, compose_single]
  · rw [if_neg h, compose_aggregate p call missed h]

end Notifier

end CallNotice
