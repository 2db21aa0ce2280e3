import CallNotice.Proofs.Discretion.Call
import CallNotice.Proofs.Host.Missed
import CallNotice.Proofs.Host.SameLog

namespace CallNotice

open Act

namespace Host

structure Alike (a b : Host) : Prop where
  scene : a.scene.Alike b.scene
  store : CallLogStore.Alike CallLogEntry.anonymous a.store b.store
  outlet : a.outlet.Alike b.outlet
  notifier : a.notifier = b.notifier
  hides : a.notifier.logsHandles = false
  listeners : a.listeners = b.listeners

namespace Alike

variable {a b : Host} {now now' : Timestamp} {call call' : Call}

theorem tell (h : Alike a b) (event : LogEvent) : Alike (a.tell event) (b.tell event) :=
  { h with scene := h.scene.tell event }

theorem note (h : Alike a b) (text text' : String) : Alike (a.note text) (b.note text') :=
  { h with }

theorem count (h : Alike a b) : a.count = b.count := congrArg Notifier.count h.notifier

theorem setCount (h : Alike a b) (count : UInt32) : Alike (a.setCount count) (b.setCount count) := by
  refine { h with notifier := ?_ }
  change { a.notifier with count } = { b.notifier with count }
  rw [h.notifier]

theorem ask (h : Alike a b) {act act' : Act Outlet}
    (hact : Matches Scene.Alike Outlet.Alike act act') :
    Agree (fun _ _ => Alike) Alike (a.ask act) (b.ask act') := by
  have hrun := hact a.scene b.scene h.scene
  rw [Host.ask, Host.ask]
  generalize act.run a.scene = left at hrun ⊢
  generalize act'.run b.scene = right at hrun ⊢
  cases hrun with
  | ok hnext => exact .ok { h with outlet := hnext.1, scene := hnext.2 }
  | error fault hscene => exact .error fault { h with scene := hscene }

theorem notify (h : Alike a b) (now now' : Timestamp) (id : Int32) {n n' : Notification}
    (hn : n.anonymous = n'.anonymous) :
    Agree (fun _ _ => Alike) Alike (a.notify now id n) (b.notify now' id n') :=
  h.ask (Outlet.matches_notify now now' id h.outlet hn)

theorem cancel (h : Alike a b) (now now' : Timestamp) (id : Int32) :
    Agree (fun _ _ => Alike) Alike (a.cancel now id) (b.cancel now' id) :=
  h.ask (Outlet.matches_cancel now now' id h.outlet)

theorem commit {α : Type} (h : Alike a b) {act act' : Act (α × CallLogStore)}
    (hact : Matches Scene.Alike (fun r r' => r.1 = r'.1 ∧
      CallLogStore.Alike CallLogEntry.anonymous r.2 r'.2) act act') :
    Agree (fun x y a b => x = y ∧ Alike a b) Alike (a.commit act) (b.commit act') := by
  have hrun := hact a.scene b.scene h.scene
  rw [Host.commit, Host.commit]
  generalize act.run a.scene = left at hrun ⊢
  generalize act'.run b.scene = right at hrun ⊢
  cases hrun with
  | ok hnext => exact .ok ⟨hnext.1.1, { h with store := hnext.1.2, scene := hnext.2 }⟩
  | error fault hscene => exact .error fault { h with scene := hscene }

theorem insert (h : Alike a b) {e e' : CallLogEntry} (he : e.anonymous = e'.anonymous) :
    Agree (fun id id' a b => id = id' ∧ Alike a b) Alike (a.insert e) (b.insert e') := by
  rw [insert_eq_commit, insert_eq_commit]
  exact h.commit (CallLogStore.matches_insert CallLogEntry.isLook_anonymous h.store
    (fun path _ => CallLogJournal.parallel_alike path) he)

theorem update (h : Alike a b) (filter : CallLogFilter) (values : CallLogUpdate) :
    Agree (fun n n' a b => n = n' ∧ Alike a b) Alike (a.update filter values)
      (b.update filter values) := by
  rw [update_eq_commit, update_eq_commit]
  exact h.commit (CallLogStore.couples_update CallLogEntry.isLook_anonymous h.store
    (fun path _ => CallLogJournal.parallel_alike path) (fun _ _ => id)
    (fun path _ _ _ hst => hst.files.holds path) filter values)

theorem markRead (h : Alike a b) : Alike a.markRead b.markRead := by
  rw [markRead_eq_tellResult, markRead_eq_tellResult]
  exact tellResult_of_agree (h.update .newMissed .markRead) fun event _ _ hnext => hnext.tell event

theorem orTell {left right : Except Fault Unit × Host}
    (h : Agree (fun _ _ => Alike) Alike left right) (failed : String → Fault → LogEvent) :
    Alike (orTell failed left) (orTell failed right) := by
  apply orTell_of_agree h
  intro fault a b h
  rw [h.outlet.name]
  exact h.tell _

theorem withdrawNotice (h : Alike a b) : Alike (a.withdrawNotice now) (b.withdrawNotice now') := by
  rw [withdrawNotice_eq_orTell, withdrawNotice_eq_orTell]
  exact orTell (h.cancel now now' Notifier.noticeId) _

theorem postNotice (h : Alike a b) {n n' : Notification} (hn : n.anonymous = n'.anonymous) :
    Alike (a.postNotice now n) (b.postNotice now' n') := by
  rw [postNotice_eq_orTell, postNotice_eq_orTell]
  exact orTell (h.notify now now' Notifier.noticeId hn) _

theorem clear (h : Alike a b) : Alike (a.clear now) (b.clear now') := by
  rw [Host.clear, Host.clear, h.count]
  exact ((h.markRead.setCount 0).withdrawNotice).tell _

theorem showMissed (h : Alike a b) (hcall : call.Indistinct call') :
    Alike (a.showMissed now call) (b.showMissed now' call') := by
  rw [showMissed_eq, showMissed_eq, h.count, Notifier.composeEvent_eq h.hides hcall, hcall.describe,
    h.notifier]
  apply postNotice
  · exact ((h.setCount _).tell _).tell _
  · exact b.notifier.anonymous_notice hcall _

theorem record (h : Alike a b) (hcall : call.Indistinct call') :
    Alike (a.record call) (b.record call') := by
  rw [record_eq_tellResult, record_eq_tellResult]
  exact tellResult_of_agree (h.insert hcall.rowFor) fun event _ _ hnext => hnext.tell event

theorem hear (h : Alike a b) (hcall : call.Indistinct call') (before after : CallState)
    (listener : Listener) : Alike (Host.hear now ⟨call, before, after⟩ a listener)
      (Host.hear now' ⟨call', before, after⟩ b listener) := by
  have hmissed : CallEvent.isMissed ⟨call, before, after⟩ = CallEvent.isMissed ⟨call', before, after⟩ :=
    hcall.isMissed before after
  cases listener with
  | notifier =>
    rw [Host.hear, Host.hear, hmissed]
    split
    · exact h.showMissed hcall
    · exact h
  | recorder =>
    rw [Host.hear, Host.hear, hmissed]
    split
    · exact h.record hcall
    · exact h
  | probe name => exact h.note _ _

theorem foldl {f g : Host → Listener → Host}
    (hfg : ∀ a b listener, Alike a b → Alike (f a listener) (g b listener))
    (listeners : List Listener) (h : Alike a b) :
    Alike (listeners.foldl f a) (listeners.foldl g b) := by
  induction listeners generalizing a b with
  | nil => exact h
  | cons listener listeners ih => exact ih (hfg a b listener h)

theorem changeState (h : Alike a b) (hcall : call.Indistinct call') (before after : CallState) :
    Alike (a.changeState now ⟨call, before, after⟩) (b.changeState now' ⟨call', before, after⟩) := by
  rw [Host.changeState, Host.changeState, h.listeners, hcall.describe]
  apply foldl _ _ (h.tell _)
  exact fun a b listener h => h.hear hcall before after listener

theorem tellProbes (h : Alike a b) (what : String) :
    Alike (a.tellProbes what call) (b.tellProbes what call') := by
  rw [Host.tellProbes, Host.tellProbes, h.listeners]
  apply foldl _ _ h
  intro a b listener h
  cases listener with
  | probe name => exact h.note _ _
  | _ => exact h

theorem receive (h : Alike a b) {i i' : Intent} (hi : i.anonymous = i'.anonymous) :
    Alike (a.receive now i).2 (b.receive now' i').2 := by
  -- An intent is refused if it has nobody to reach, so either both are or neither is.
  have haction := Intent.action_eq hi
  have heffect := Intent.effect_answers hi
  rw [Host.receive, Host.receive, Intent.clears, Intent.clears, haction]
  generalize i.effect = left at heffect ⊢
  generalize i'.effect = right at heffect ⊢
  have htold := h.tell (.actionReceived i'.action)
  cases heffect with
  | error fault => exact htold
  | ok _ =>
    by_cases hclears : decide (i'.action ≠ .viewCallLog) = true
    · simp only [hclears, if_true]
      exact htold.clear
    · simp only [hclears]
      exact htold

theorem receiveAction (h : Alike a b) (name : String) (data : Option String) :
    Alike (a.receiveAction now name data).2 (b.receiveAction now' name data).2 := by
  rw [Host.receiveAction, Host.receiveAction]
  cases IntentAction.ofText name with
  | ok action => exact h.receive rfl
  | error fault => exact h

end Alike

end Host

inductive HostStep.Alike : HostStep → HostStep → Prop
  | event {call call' : Call} (h : call.Alike call') (before after : CallState) :
    Alike (.event ⟨call, before, after⟩) (.event ⟨call', before, after⟩)
  | added {call call' : Call} (h : call.Alike call') : Alike (.added call) (.added call')
  | removed {call call' : Call} (h : call.Alike call') : Alike (.removed call) (.removed call')
  | showMissed {call call' : Call} (h : call.Alike call') :
    Alike (.showMissed call) (.showMissed call')
  | same (step : HostStep) : Alike step step

inductive NoticePart
  | body
  | dismissal
  | button (index : Nat)

def NoticePart.intent? (n : Notification) : NoticePart → Option Intent
  | body => some n.contentIntent
  | dismissal => n.deleteIntent
  | button index => n.buttons[index]?.map Button.intent

inductive SessionStep
  | host (step : HostStep)
  | press (sink : Nat) (id : Int32) (part : NoticePart)

inductive SessionStep.Alike : SessionStep → SessionStep → Prop
  | host {step step' : HostStep} (h : step.Alike step') : Alike (.host step) (.host step')
  | press (sink : Nat) (id : Int32) (part : NoticePart) :
    Alike (.press sink id part) (.press sink id part)

theorem NoticePart.intent?_anonymous (part : NoticePart) (n : Notification) :
    part.intent? n.anonymous = (part.intent? n).map Intent.anonymous := by
  cases part with
  | body => rfl
  | dismissal => rfl
  | button index =>
    change (n.buttons.map Button.anonymous)[index]?.map Button.intent = _
    rw [List.getElem?_map, Option.map_map, intent?, Option.map_map]
    rfl

namespace Host

def pressed? (sink : Nat) (id : Int32) (part : NoticePart) (h : Host) : Option Intent :=
  h.outlet.memories[sink]?.bind fun m => (m.active.get? id).bind part.intent?

def perform (now : Timestamp) (h : Host) : SessionStep → Host
  | .host step => (h.step now step).2
  | .press sink id part =>
    match h.pressed? sink id part with
    | some intent => (h.receive now intent).2
    | none => h

def session (h : Host) (steps : List (Timestamp × SessionStep)) : Host :=
  steps.foldl (fun h (now, step) => h.perform now step) h

namespace Alike

variable {a b : Host} {now now' : Timestamp}

theorem pressed? (h : Alike a b) (sink : Nat) (id : Int32) (part : NoticePart) :
    (a.pressed? sink id part).map Intent.anonymous =
      (b.pressed? sink id part).map Intent.anonymous := by
  have hpressed (h : Host) : (h.pressed? sink id part).map Intent.anonymous =
      (h.outlet.memories.map MemorySink.outline)[sink]?.bind fun shown =>
        (shown.get? id).bind part.intent? := by
    rw [Host.pressed?, List.getElem?_map, Option.map_bind, Option.bind_map]
    congr 1
    funext m
    change ((m.active.get? id).bind part.intent?).map Intent.anonymous =
      (Board.get? id (m.active.mapValues Notification.anonymous)).bind part.intent?
    rw [Board.get?_mapValues]
    cases m.active.get? id with
    | none => rfl
    | some n => exact (part.intent?_anonymous n).symm
  rw [hpressed, hpressed, h.outlet.memories]

theorem step (h : Alike a b) {step step' : HostStep} (hstep : step.Alike step') :
    Alike (a.step now step).2 (b.step now' step').2 := by
  cases hstep with
  | event hcall before after => exact h.changeState hcall.indistinct before after
  | added _ => exact h.tellProbes "added"
  | removed _ => exact h.tellProbes "removed"
  | showMissed hcall => exact h.showMissed hcall.indistinct
  | same step =>
    cases step with
    | event e => exact h.changeState .rfl e.before e.after
    | added call => exact h.tellProbes "added"
    | removed call => exact h.tellProbes "removed"
    | showMissed call => exact h.showMissed .rfl
    | clear => exact h.clear
    | receive intent => exact h.receive rfl
    | receiveAction name data =>
      rw [Host.step, Host.step, snd_reply, snd_reply]
      exact h.receiveAction name data
    | notify id n => exact (h.notify now now' id rfl).scenes fun _ _ _ _ hnext => hnext
    | cancel id => exact (h.cancel now now' id).scenes fun _ _ _ _ hnext => hnext
    | insert entry => exact (h.insert rfl).scenes fun _ _ _ _ hnext => hnext.2
    | update filter values => exact (h.update filter values).scenes fun _ _ _ _ hnext => hnext.2
    | query filter =>
      change Alike (a.query filter).2 (b.query filter).2
      rw [query_eq, query_eq]
      exact h

theorem perform (h : Alike a b) {step step' : SessionStep} (hstep : step.Alike step') :
    Alike (a.perform now step) (b.perform now' step') := by
  cases hstep with
  | host hstep => exact h.step hstep
  | press sink id part =>
    have hpressed := h.pressed? sink id part
    rw [Host.perform, Host.perform]
    generalize a.pressed? sink id part = left at hpressed ⊢
    generalize b.pressed? sink id part = right at hpressed ⊢
    cases left <;> cases right <;> simp only [Option.map_some, Option.map_none, reduceCtorEq,
      Option.some.injEq] at hpressed
    · exact h
    · exact h.receive hpressed

theorem session (h : Alike a b) {steps steps' : List (Timestamp × SessionStep)}
    (hsteps : List.Forall₂ (fun step step' => step.2.Alike step'.2) steps steps') :
    Alike (a.session steps) (b.session steps') := by
  induction hsteps generalizing a b with
  | nil => exact h
  | cons hstep _ ih => exact ih (h.perform hstep)

end Alike

/-- Unless handles may be logged in full, the log of a session is the same whoever called, as long as
the handles are masked alike, whatever the names and the pictures of the callers are. -/
theorem log_tells_no_caller (h : Host) (hides : h.notifier.logsHandles = false)
    {steps steps' : List (Timestamp × SessionStep)}
    (hsteps : List.Forall₂ (fun step step' => step.2.Alike step'.2) steps steps') :
    (h.session steps).scene.log = (h.session steps').scene.log := by
  have halike : Alike h h := ⟨⟨rfl, .rfl⟩, .rfl, .rfl, rfl, hides, rfl⟩
  exact (halike.session hsteps).scene.log

theorem log_tells_no_caller_of_two :
    let moment : Timestamp := ⟨⟨2024, 1, 2, by decide⟩, 3, 4, 5, 0, by decide⟩
    let call (address : String) (name : Option String) : Call :=
      ⟨⟨some "tel", address⟩, name, moment, .incomingMissed, none, none⟩
    let host : Host := ⟨.ofFiles (.blank ["home"]), .journal "calls.jsonl",
      .dispatcher [.memory .empty, .log, .journal ⟨"notices.jsonl", 0⟩] false,
      .ofSettings .standard, [.recorder, .notifier], []⟩
    let steps (call : Call) : List (Timestamp × SessionStep) :=
      [(moment, .host (.event ⟨call, .ringing, .disconnected⟩)), (moment, .press 0 1 (.button 0))]
    host.notifier.logsHandles = false ∧
      (host.session (steps (call "5551234" (some "Ann")))).scene.log =
        (host.session (steps (call "5550034" none))).scene.log := by
  intro moment call host steps
  have hmask : (call "5551234" (some "Ann")).handle.SameMask (call "5550034" none).handle :=
    ⟨⟨"tel:5551234", by decide⟩, ⟨"tel:5550034", by decide⟩, rfl, by decide, by decide⟩
  have hcall : (call "5551234" (some "Ann")).Alike (call "5550034" none) := ⟨hmask, rfl, rfl, rfl⟩
  refine ⟨rfl, log_tells_no_caller host rfl (.cons ?_ (.cons ?_ .nil))⟩
  · exact .host (.event hcall _ _)
  · exact .press 0 1 _

/-- Where handles may be logged in full, the log tells who called. -/
example :
    let moment : Timestamp := ⟨⟨2024, 1, 2, by decide⟩, 3, 4, 5, 0, by decide⟩
    let call (address : String) : Call :=
      ⟨⟨some "tel", address⟩, none, moment, .incomingMissed, none, none⟩
    let host : Host := ⟨.ofFiles (.blank ["home"]), .memory [], .direct .log,
      { Notifier.standard with logsHandles := true }, [], []⟩
    (host.session [(moment, .host (.showMissed (call "5551234")))]).scene.log ≠
      (host.session [(moment, .host (.showMissed (call "5550034")))]).scene.log := by
  decide +kernel

end Host

end CallNotice
