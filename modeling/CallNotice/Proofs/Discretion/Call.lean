import CallNotice.Proofs.Discretion.Outlet
import CallNotice.Proofs.Handle
import CallNotice.Proofs.Host.Notice

namespace CallNotice

open Act

namespace Handle

/-- Both were read from texts, and what is not hidden of them is the same. -/
structure SameMask (handle handle' : Handle) : Prop where
  read : ∃ s, handle = ofText s
  read' : ∃ s, handle' = ofText s
  scheme : handle.scheme = handle'.scheme
  length : handle.address.length = handle'.address.length
  ending : 2 < handle.address.length →
    handle.address.toList.drop (handle.address.length - 2) =
      handle'.address.toList.drop (handle'.address.length - 2)

namespace SameMask

variable {handle handle' : Handle}

theorem redacted (h : SameMask handle handle') : handle.redacted = handle'.redacted := by
  have hlength := h.length
  have hending := h.ending
  rw [← String.length_toList, ← String.length_toList] at hlength
  rw [← String.length_toList, ← String.length_toList] at hending
  rw [Handle.redacted, Handle.redacted, h.scheme, masked, masked, ← hlength]
  by_cases hshort : handle.address.toList.length ≤ 2
  · rw [if_pos hshort, if_pos hshort]
  · rw [if_neg hshort, if_neg hshort, hending (by omega), hlength]

theorem isEmpty (h : SameMask handle handle') : handle.isEmpty = handle'.isEmpty := by
  have hlength := h.length
  obtain ⟨s, rfl⟩ := h.read
  obtain ⟨s', rfl⟩ := h.read'
  rw [isEmpty_ofText, isEmpty_ofText, hlength]

end SameMask

end Handle

namespace Call

structure Alike (call call' : Call) : Prop where
  handle : call.handle.SameMask call'.handle
  created : call.created = call'.created
  cause : call.cause = call'.cause
  largeIcon : call.largeIcon?.isSome = call'.largeIcon?.isSome

/-- All that may make a difference to the log is the same. -/
structure Indistinct (call call' : Call) : Prop where
  redacted : call.handle.redacted = call'.handle.redacted
  isEmpty : call.handle.isEmpty = call'.handle.isEmpty
  created : call.created = call'.created
  cause : call.cause = call'.cause
  largeIcon : call.largeIcon?.isSome = call'.largeIcon?.isSome

variable {call call' : Call}

theorem Alike.indistinct (h : Alike call call') : Indistinct call call' :=
  ⟨h.handle.redacted, h.handle.isEmpty, h.created, h.cause, h.largeIcon⟩

namespace Indistinct

protected theorem rfl : Indistinct call call := ⟨rfl, rfl, rfl, rfl, rfl⟩

theorem describe (h : Indistinct call call') : call.describe = call'.describe := by
  unfold Call.describe
  rw [h.redacted, h.cause, h.created]

theorem isMissed (h : Indistinct call call') (before after : CallState) :
    call.isMissed before after = call'.isMissed before after := by
  rw [Call.isMissed, Call.isMissed, h.cause]

theorem rowFor (h : Indistinct call call') :
    (Host.rowFor call).anonymous = (Host.rowFor call').anonymous := by
  simp only [CallLogEntry.anonymous, Host.rowFor, CallLogEntry.missed, h.created]

end Indistinct

end Call

theorem Intent.anonymous_broadcast (action : IntentAction) {handle handle' : Handle}
    (h : handle.isEmpty = handle'.isEmpty) :
    (broadcast action (some handle)).anonymous = (broadcast action (some handle')).anonymous := by
  simp only [anonymous, broadcast, Option.filter_some, h]
  cases handle'.isEmpty <;> rfl

theorem Intent.action_eq {i i' : Intent} (h : i.anonymous = i'.anonymous) :
    i.action = i'.action := by
  have haction (i : Intent) : i.anonymous.action = i.action := rfl
  rw [← haction, h, haction]

theorem Intent.effect_answers {i i' : Intent} (h : i.anonymous = i'.anonymous) :
    Answers (fun _ _ => True) i.effect i'.effect := by
  have haction := action_eq h
  have hdata : i.anonymous.data = i'.anonymous.data := congrArg Intent.data h
  have hreach (effect effect' : Handle → Effect) :
      Answers (fun _ _ => True) (i.reach effect) (i'.reach effect') := by
    unfold anonymous at hdata
    rw [reach, reach, haction]
    cases hfound : i.data.filter (fun handle => !handle.isEmpty) <;>
      cases hfound' : i'.data.filter (fun handle => !handle.isEmpty) <;>
      simp only [hfound, hfound', Option.map_some, Option.map_none, reduceCtorEq] at hdata
    · exact .error _
    · exact .ok trivial
  unfold effect
  rw [← haction]
  cases i.action with
  | viewCallLog => exact .ok trivial
  | clearMissedCalls => exact .ok trivial
  | callBack => exact hreach _ _
  | sendMessage => exact hreach _ _

namespace Notifier

variable {call call' : Call}

theorem anonymous_notice (p : Notifier) (h : call.Indistinct call') (missed : UInt32) :
    (p.notice call missed).anonymous = (p.notice call' missed).anonymous := by
  have hcallBack : (p.callBackButton call).anonymous = (p.callBackButton call').anonymous :=
    congrArg (Button.mk _ _) (Intent.anonymous_broadcast .callBack h.isEmpty)
  have hmessage : (p.messageButton call).anonymous = (p.messageButton call').anonymous :=
    congrArg (Button.mk _ _) (Intent.anonymous_broadcast .sendMessage h.isEmpty)
  have hicon : call.largeIcon?.map (fun _ => (⟨0, 0, []⟩ : Bitmap)) =
      call'.largeIcon?.map fun _ => ⟨0, 0, []⟩ := by
    have hsome := h.largeIcon
    cases hleft : call.largeIcon? <;> cases hright : call'.largeIcon? <;> simp_all
  rw [notice, notice]
  by_cases hone : missed = 1
  · rw [if_pos hone, if_pos hone]
    simp only [Notification.anonymous, singleNotice, List.map_cons, hcallBack, hmessage, hicon,
      h.created]
  · rw [if_neg hone, if_neg hone]
    simp only [Notification.anonymous, aggregateNotice, h.created]

theorem composeEvent_eq {p : Notifier} (hp : p.logsHandles = false) (h : call.Indistinct call')
    (missed : UInt32) : p.composeEvent call missed = p.composeEvent call' missed := by
  have hlogged (call : Call) : p.loggedHandle call.handle = call.handle.redacted :=
    if_neg (by rw [hp]; exact Bool.false_ne_true)
  rw [composeEvent, composeEvent, hlogged, hlogged, h.redacted]

end Notifier

end CallNotice
