import CallNotice.Proofs.Host.Notice
import CallNotice.Proofs.Host.Requests

namespace CallNotice

namespace HostStep

def missed? : HostStep → Option Call
  | .event e =>
    if e.before = .ringing ∧ e.after = .disconnected ∧ e.call.cause = .incomingMissed then
      some e.call
    else none
  | .showMissed call => some call
  | _ => none

def clearsBy (intent : Intent) : Bool :=
  match intent.action with
  | .viewCallLog => false
  | .clearMissedCalls => true
  | .callBack | .sendMessage => intent.data.any fun handle => !handle.isEmpty

def clears : HostStep → Bool
  | .clear => true
  | .receive intent => clearsBy intent
  | .receiveAction name data =>
    (IntentAction.ofName? (Text.trim name)).any fun action =>
      clearsBy (.broadcast action (data.map Handle.ofText))
  | _ => false

def missedAfter (calls : List Call) (step : HostStep) : List Call :=
  if step.clears then [] else calls ++ step.missed?.toList

theorem missed?_event (e : CallEvent) :
    missed? (.event e) = if e.isMissed then some e.call else none := by
  have hiff : e.isMissed = true ↔ e.before = .ringing ∧ e.after = .disconnected ∧
      e.call.cause = .incomingMissed := by
    simp [CallEvent.isMissed, Call.isMissed, and_assoc]
  simp only [missed?, hiff]

theorem missedAfter_of_clears {step : HostStep} (h : step.clears = true) (calls : List Call) :
    missedAfter calls step = [] := if_pos h

theorem missedAfter_of_stays {step : HostStep} (h : step.clears = false) (calls : List Call) :
    missedAfter calls step = calls ++ step.missed?.toList := by
  rw [missedAfter, if_neg]
  rw [h]
  decide

theorem missedAfter_of_unmissed {step : HostStep} (hmissed : step.missed? = none)
    (calls : List Call) : missedAfter calls step = if step.clears then [] else calls := by
  rw [missedAfter, hmissed, Option.toList_none, List.append_nil]

theorem missedAfter_of_quiet {step : HostStep} (h : step.clears = false)
    (hmissed : step.missed? = none) (calls : List Call) : missedAfter calls step = calls := by
  rw [missedAfter_of_stays h, hmissed, Option.toList_none, List.append_nil]

/-- The calls that were missed since the last clearing, the latest last. -/
def missedSince (steps : List HostStep) : List Call := steps.foldl missedAfter []

end HostStep

namespace Host

structure SameNotices (h h' : Host) : Prop where
  outlet : h'.outlet = h.outlet
  notifier : h'.notifier = h.notifier
  listeners : h'.listeners = h.listeners

namespace SameNotices

variable {h h' h'' : Host}

theorem trans (hfirst : SameNotices h h') (hnext : SameNotices h' h'') : SameNotices h h'' :=
  ⟨hnext.outlet.trans hfirst.outlet, hnext.notifier.trans hfirst.notifier,
    hnext.listeners.trans hfirst.listeners⟩

theorem tell (event : LogEvent) (h : Host) : SameNotices h (h.tell event) := ⟨rfl, rfl, rfl⟩

theorem note (text : String) (h : Host) : SameNotices h (h.note text) := ⟨rfl, rfl, rfl⟩

theorem commit {α : Type} (act : Act (α × CallLogStore)) (h : Host) :
    SameNotices h (h.commit act).2 := by
  rw [Host.commit]
  rcases act.run h.scene with ⟨fault | ⟨a, store⟩, scene⟩
  · exact ⟨rfl, rfl, rfl⟩
  · exact ⟨rfl, rfl, rfl⟩

theorem insert (e : CallLogEntry) (h : Host) : SameNotices h (h.insert e).2 := by
  rw [insert_eq_commit]
  exact commit _ h

theorem update (filter : CallLogFilter) (values : CallLogUpdate) (h : Host) :
    SameNotices h (h.update filter values).2 := by
  rw [update_eq_commit]
  exact commit _ h

theorem query (filter : CallLogFilter) (h : Host) : SameNotices h (h.query filter).2 :=
  ⟨rfl, rfl, rfl⟩

theorem markRead (h : Host) : SameNotices h h.markRead := by
  obtain ⟨event, heq⟩ := markRead_eq h
  rw [heq]
  exact (update .newMissed .markRead h).trans (tell event _)

theorem record (call : Call) (h : Host) : SameNotices h (h.record call) := by
  obtain ⟨event, heq⟩ := record_eq call h
  rw [heq]
  exact (insert (rowFor call) h).trans (tell event _)

theorem foldl {f : Host → Listener → Host} (hf : ∀ h listener, SameNotices h (f h listener))
    (listeners : List Listener) (h : Host) : SameNotices h (listeners.foldl f h) := by
  induction listeners generalizing h with
  | nil => exact ⟨rfl, rfl, rfl⟩
  | cons listener listeners ih => exact (hf h listener).trans (ih (f h listener))

theorem tellProbes (what : String) (call : Call) (h : Host) :
    SameNotices h (h.tellProbes what call) := by
  unfold Host.tellProbes
  apply foldl
  intro h listener
  cases listener with
  | probe name => exact note _ _
  | notifier => exact ⟨rfl, rfl, rfl⟩
  | recorder => exact ⟨rfl, rfl, rfl⟩

end SameNotices

structure Tracks (p : Notifier) (listeners : List Listener) (board : Board Notification)
    (calls : List Call) (h : Host) : Prop where
  notifier : h.notifier = { p with count := .ofNat calls.length }
  listeners : h.listeners = listeners
  sink : ∃ m, h.outlet = .direct (.memory m) ∧
    m.active.get? Notifier.noticeId =
      (calls.getLast?.map fun call => p.notice call (.ofNat calls.length)) ∧
    ∀ id ≠ Notifier.noticeId, m.active.get? id = board.get? id

variable {p : Notifier} {listeners : List Listener} {board : Board Notification}
  {calls : List Call} {h h' : Host} {now : Timestamp}

theorem Tracks.of_same (htracks : Tracks p listeners board calls h) (hsame : SameNotices h h') :
    Tracks p listeners board calls h' := by
  obtain ⟨m, houtlet, hnotice, hothers⟩ := htracks.sink
  exact ⟨hsame.notifier.trans htracks.notifier, hsame.listeners.trans htracks.listeners,
    m, hsame.outlet.trans houtlet, hnotice, hothers⟩

theorem showMissed_eq (call : Call) (h : Host) :
    h.showMissed now call =
      (((h.setCount (h.count + 1)).tell (h.notifier.composeEvent call (h.count + 1))).tell
        (.notificationAdded call.describe (h.count + 1))).postNotice now
          (h.notifier.notice call (h.count + 1)) := by
  rw [showMissed, Notifier.compose_eq]
  rfl

theorem receive_eq (now : Timestamp) (i : Intent) (h : Host) :
    (h.receive now i).2 =
      if HostStep.clearsBy i then (h.tell (.actionReceived i.action)).clear now
      else h.tell (.actionReceived i.action) := by
  obtain ⟨action, data, mimeType, target⟩ := i
  unfold receive Intent.effect HostStep.clearsBy Intent.clears Intent.reach
  cases action with
  | viewCallLog => rfl
  | clearMissedCalls => rfl
  | callBack =>
    cases data with
    | none => rfl
    | some handle => cases hempty : handle.isEmpty <;> simp [Option.filter, hempty]
  | sendMessage =>
    cases data with
    | none => rfl
    | some handle => cases hempty : handle.isEmpty <;> simp [Option.filter, hempty]

end Host

end CallNotice
