import CallNotice.Proofs.Host.Missed
import CallNotice.Proofs.Host.SameLog

namespace CallNotice

def HostStep.id? : HostStep → Option Int32
  | notify id _ => some id
  | cancel id => some id
  | _ => none

namespace Host

/-- What holds of a host goes on to hold whatever happens to it, if it asks for notifications with
these ids only. -/
structure Invariant (ids : List Int32) (P : Host → Prop) : Prop where
  tell {h : Host} : P h → ∀ event, P (h.tell event)
  note {h : Host} : P h → ∀ text, P (h.note text)
  setCount {h : Host} : P h → ∀ count, P (h.setCount count)
  insert {h : Host} : P h → ∀ e, P (h.insert e).2
  update {h : Host} : P h → ∀ filter values, P (h.update filter values).2
  notify {h : Host} : P h → ∀ now, ∀ id ∈ ids, ∀ n, P (h.notify now id n).2
  cancel {h : Host} : P h → ∀ now, ∀ id ∈ ids, P (h.cancel now id).2

namespace Invariant

variable {ids : List Int32} {P : Host → Prop} {h : Host} (hP : Invariant ids P)
  (hnotice : Notifier.noticeId ∈ ids) (now : Timestamp)

include hP

theorem record (h₀ : P h) (call : Call) : P (h.record call) := by
  obtain ⟨event, heq⟩ := record_eq call h
  rw [heq]
  exact hP.tell (hP.insert h₀ _) event

theorem markRead (h₀ : P h) : P h.markRead := by
  obtain ⟨event, heq⟩ := markRead_eq h
  rw [heq]
  exact hP.tell (hP.update h₀ _ _) event

theorem orTell {r : Except Fault Unit × Host} (h₀ : P r.2) (failed : String → Fault → LogEvent) :
    P (orTell failed r) := by
  rcases r with ⟨fault | _, next⟩
  · exact hP.tell h₀ _
  · exact h₀

theorem tellProbes (h₀ : P h) (what : String) (call : Call) : P (h.tellProbes what call) := by
  unfold Host.tellProbes
  generalize h.listeners = listeners
  induction listeners generalizing h with
  | nil => exact h₀
  | cons listener listeners ih =>
    apply ih
    cases listener with
    | probe name => exact hP.note h₀ _
    | _ => exact h₀

include hnotice

theorem postNotice (h₀ : P h) (n : Notification) : P (h.postNotice now n) := by
  rw [postNotice_eq_orTell]
  exact hP.orTell (hP.notify h₀ now _ hnotice n) _

theorem withdrawNotice (h₀ : P h) : P (h.withdrawNotice now) := by
  rw [withdrawNotice_eq_orTell]
  exact hP.orTell (hP.cancel h₀ now _ hnotice) _

theorem clear (h₀ : P h) : P (h.clear now) := by
  have hread := hP.setCount (hP.markRead h₀) 0
  exact hP.tell (hP.withdrawNotice hnotice now hread) _

theorem showMissed (h₀ : P h) (call : Call) : P (h.showMissed now call) := by
  rw [showMissed_eq]
  exact hP.postNotice hnotice now (hP.tell (hP.tell (hP.setCount h₀ _) _) _) _

theorem hear (h₀ : P h) (e : CallEvent) (listener : Listener) : P (h.hear now e listener) := by
  cases listener with
  | notifier =>
    rw [Host.hear]
    split
    · exact hP.showMissed hnotice now h₀ e.call
    · exact h₀
  | recorder =>
    rw [Host.hear]
    split
    · exact hP.record h₀ e.call
    · exact h₀
  | probe name => exact hP.note h₀ _

theorem heard (h₀ : P h) (e : CallEvent) (listeners : List Listener) :
    P (listeners.foldl (Host.hear now e) h) := by
  induction listeners generalizing h with
  | nil => exact h₀
  | cons listener listeners ih => exact ih (hP.hear hnotice now h₀ e listener)

theorem changeState (h₀ : P h) (e : CallEvent) : P (h.changeState now e) :=
  hP.heard hnotice now (hP.tell h₀ _) e _

theorem receive (h₀ : P h) (i : Intent) : P (h.receive now i).2 := by
  rw [receive_eq]
  split
  · exact hP.clear hnotice now (hP.tell h₀ _)
  · exact hP.tell h₀ _

theorem receiveAction (h₀ : P h) (name : String) (data : Option String) :
    P (h.receiveAction now name data).2 := by
  rw [Host.receiveAction]
  cases IntentAction.ofText name with
  | ok action => exact hP.receive hnotice now h₀ _
  | error fault => exact h₀

theorem step (h₀ : P h) {step : HostStep} (hid : ∀ id ∈ step.id?, id ∈ ids) :
    P (h.step now step).2 := by
  cases step with
  | event e => exact hP.changeState hnotice now h₀ e
  | added call => exact hP.tellProbes h₀ _ call
  | removed call => exact hP.tellProbes h₀ _ call
  | showMissed call => exact hP.showMissed hnotice now h₀ call
  | clear => exact hP.clear hnotice now h₀
  | receive i => exact hP.receive hnotice now h₀ i
  | receiveAction name data => exact hP.receiveAction hnotice now h₀ name data
  | notify id n => exact hP.notify h₀ now id (hid id rfl) n
  | cancel id => exact hP.cancel h₀ now id (hid id rfl)
  | insert e => exact hP.insert h₀ e
  | update filter values => exact hP.update h₀ filter values
  | query filter =>
    rw [Host.step, snd_reply, query_eq]
    exact h₀

theorem run (h₀ : P h) {steps : List (Timestamp × HostStep)}
    (hids : ∀ step ∈ steps, ∀ id ∈ step.2.id?, id ∈ ids) : P (h.run steps) := by
  induction steps generalizing h with
  | nil => exact h₀
  | cons first steps ih =>
    apply ih
    · exact hP.step hnotice first.1 h₀ (hids first List.mem_cons_self)
    · exact fun step hstep => hids step (List.mem_cons_of_mem first hstep)

end Invariant

end Host

end CallNotice
