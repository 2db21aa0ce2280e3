import CallNotice.Proofs.Host.Independence
import CallNotice.Proofs.Host.Posting
import CallNotice.Proofs.Host.Unlogged

namespace CallNotice

namespace Intent

structure LacksHandle (i : Intent) : Prop where
  action : i.action = .callBack ∨ i.action = .sendMessage
  data : ∀ handle ∈ i.data, Text.isBlankText handle.address = true

def Carries (i : Intent) : Effect → Prop
  | .openCallLog => i.action = .viewCallLog
  | .cleared => i.action = .clearMissedCalls
  | .dial handle => i.action = .callBack ∧ i.data = some handle
  | .composeMessage handle => i.action = .sendMessage ∧ i.data = some handle

variable {i : Intent}

theorem reach_blank {effect : Handle → Effect}
    (h : ∀ handle ∈ i.data, Text.isBlankText handle.address = true) :
    i.reach effect = .error (.handleRequired i.action) := by
  unfold reach
  cases hdata : i.data with
  | none => rfl
  | some handle =>
    have hempty : handle.isEmpty = true := h handle hdata
    rw [Option.filter_some, hempty]
    rfl

theorem reach_some {effect : Handle → Effect} {handle : Handle} (hdata : i.data = some handle)
    (h : Text.isBlankText handle.address = false) : i.reach effect = .ok (effect handle) := by
  have hempty : handle.isEmpty = false := h
  unfold reach
  rw [hdata, Option.filter_some, hempty]
  rfl

theorem effect_of_reach {effect : Handle → Effect}
    (haction : i.action = .callBack ∨ i.action = .sendMessage) (heffect : i.effect = i.reach effect)
    (hcarries : ∀ handle, i.data = some handle → i.Carries (effect handle)) :
    (¬i.LacksHandle ∧ ∃ e, i.effect = .ok e ∧ i.Carries e) ∨
      (i.LacksHandle ∧ i.effect = .error (.handleRequired i.action)) := by
  rw [heffect]
  by_cases hblank : ∀ handle ∈ i.data, Text.isBlankText handle.address = true
  · exact .inr ⟨⟨haction, hblank⟩, reach_blank hblank⟩
  · refine .inl ⟨fun hlacks => hblank hlacks.data, ?_⟩
    push Not at hblank
    obtain ⟨handle, hdata, hsome⟩ := hblank
    rw [ne_eq, Bool.not_eq_true] at hsome
    exact ⟨effect handle, reach_some hdata hsome, hcarries handle hdata⟩

theorem effect_cases (i : Intent) :
    (¬i.LacksHandle ∧ ∃ e, i.effect = .ok e ∧ i.Carries e) ∨
      (i.LacksHandle ∧ i.effect = .error (.handleRequired i.action)) := by
  cases haction : i.action with
  | viewCallLog =>
    have hneeds : ¬i.LacksHandle := by
      rintro ⟨h | h, -⟩ <;> rw [haction] at h <;> cases h
    exact .inl ⟨hneeds, .openCallLog, by rw [effect, haction], haction⟩
  | clearMissedCalls =>
    have hneeds : ¬i.LacksHandle := by
      rintro ⟨h | h, -⟩ <;> rw [haction] at h <;> cases h
    exact .inl ⟨hneeds, .cleared, by rw [effect, haction], haction⟩
  | callBack =>
    have heffect : i.effect = i.reach .dial := by rw [effect, haction]
    rw [← haction]
    exact effect_of_reach (.inl haction) heffect fun _ hdata => ⟨haction, hdata⟩
  | sendMessage =>
    have heffect : i.effect = i.reach .composeMessage := by rw [effect, haction]
    rw [← haction]
    exact effect_of_reach (.inr haction) heffect fun _ hdata => ⟨haction, hdata⟩

end Intent

namespace Host

variable {h h' : Host} {now : Timestamp} {i : Intent}

structure Refuses (now : Timestamp) (i : Intent) (h : Host) : Prop where
  answer : (h.receive now i).1 = .error (.handleRequired i.action)
  host : SameButLog (h.receive now i).2 h

structure Clears (now : Timestamp) (i : Intent) (effect : Effect) (h : Host) : Prop where
  answer : (h.receive now i).1 = .ok effect
  host : SameButLog (h.receive now i).2 (h.clear now)

theorem receive_error {fault : Fault} (heffect : i.effect = .error fault) :
    h.receive now i = (.error fault, h.tell (.actionReceived i.action)) := by
  rw [receive, heffect]

theorem receive_ok {effect : Effect} (heffect : i.effect = .ok effect) :
    h.receive now i = (.ok effect, if i.clears then (h.tell (.actionReceived i.action)).clear now
      else h.tell (.actionReceived i.action)) := by
  rw [receive, heffect]

theorem refuses_of_effect (now : Timestamp) (h : Host)
    (heffect : i.effect = .error (.handleRequired i.action)) : Refuses now i h := by
  have hreceive : h.receive now i = _ := receive_error heffect
  exact ⟨congrArg Prod.fst hreceive, hreceive ▸ .told_left h _⟩

theorem clears_of_effect {effect : Effect} (now : Timestamp) (h : Host)
    (heffect : i.effect = .ok effect) (hclears : i.clears = true) : Clears now i effect h := by
  have hreceive : h.receive now i = _ := receive_ok heffect
  rw [if_pos hclears] at hreceive
  exact ⟨congrArg Prod.fst hreceive, hreceive ▸ (SameButLog.told_left h _).clear now⟩

structure Delivers (now : Timestamp) (i : Intent) (h : Host) : Prop where
  refused_iff (fault : Fault) :
    (h.receive now i).1 = .error fault ↔ fault = .handleRequired i.action ∧ i.LacksHandle
  carried (effect : Effect) : (h.receive now i).1 = .ok effect → i.Carries effect
  unchanged : i.LacksHandle ∨ i.action = .viewCallLog → SameButLog (h.receive now i).2 h
  cleared : ¬i.LacksHandle → i.action ≠ .viewCallLog →
    SameButLog (h.receive now i).2 (h.clear now)

theorem delivers (now : Timestamp) (i : Intent) (h : Host) : Delivers now i h := by
  obtain ⟨hneeds, e, heffect, hcarries⟩ | ⟨hlacks, heffect⟩ := i.effect_cases
  · have hreceive : h.receive now i = _ := receive_ok heffect
    constructor
    · intro fault
      rw [hreceive]
      exact ⟨nofun, fun hrest => absurd hrest.2 hneeds⟩
    · intro effect hok
      rw [hreceive] at hok
      cases hok
      exact hcarries
    · rintro (hlacks | haction)
      · exact absurd hlacks hneeds
      · have hclears : ¬i.clears = true := by simp [Intent.clears, haction]
        rw [hreceive, if_neg hclears]
        exact .told_left h _
    · intro _ haction
      have hclears : i.clears = true := by simp [Intent.clears, haction]
      exact (clears_of_effect now h heffect hclears).host
  · have hrefuses := refuses_of_effect now h heffect
    constructor
    · intro fault
      rw [hrefuses.answer]
      constructor
      · rintro ⟨⟩
        exact ⟨rfl, hlacks⟩
      · rintro ⟨rfl, -⟩
        rfl
    · intro effect hok
      rw [hrefuses.answer] at hok
      cases hok
    · exact fun _ => hrefuses.host
    · exact fun hneeds => absurd hlacks hneeds

/-- The notification is about calls, of which `handle` is to be called and `message` to be written
to. Buttons for a blank handle do nothing. -/
structure Means (now : Timestamp) (n : Notification) (handle message : Handle) (h : Host) : Prop where
  content : (h.receive now n.contentIntent).1 = .ok .openCallLog ∧
    SameButLog (h.receive now n.contentIntent).2 h
  delete : ∃ i, n.deleteIntent = some i ∧ Clears now i .cleared h
  buttons : n.buttons = [] ∨ ∃ callBack write : Button, n.buttons = [callBack, write] ∧
    (Text.isBlankText handle.address = true →
      Refuses now callBack.intent h ∧ Refuses now write.intent h) ∧
    (Text.isBlankText handle.address = false →
      Clears now callBack.intent (.dial handle) h ∧
        Clears now write.intent (.composeMessage message) h)

theorem means_of_buttons (now : Timestamp) (h : Host) {n : Notification} {handle message : Handle}
    (hcontent : n.contentIntent = .viewCallLog) (hdelete : n.deleteIntent = some .clearMissedCalls)
    (hblank : Text.isBlankText message.address = Text.isBlankText handle.address)
    (hbuttons : n.buttons = [] ∨ ∃ callBack write : Button, n.buttons = [callBack, write] ∧
      callBack.intent = .callBack handle ∧ write.intent = .broadcast .sendMessage (some message)) :
    Means now n handle message h := by
  constructor
  · rw [hcontent]
    exact ⟨rfl, .told_left h _⟩
  · exact ⟨_, hdelete, clears_of_effect now h rfl rfl⟩
  · obtain hnone | ⟨callBack, write, hlist, hcallBack, hwrite⟩ := hbuttons
    · exact .inl hnone
    · refine .inr ⟨callBack, write, hlist, fun hempty => ?_, fun hsome => ?_⟩
      · rw [hcallBack, hwrite]
        constructor
        · apply refuses_of_effect
          apply Intent.reach_blank
          rintro _ ⟨⟩
          exact hempty
        · apply refuses_of_effect
          apply Intent.reach_blank
          rintro _ ⟨⟩
          exact hblank.trans hempty
      · rw [hcallBack, hwrite]
        constructor
        · exact clears_of_effect now h (Intent.reach_some rfl hsome) rfl
        · exact clears_of_effect now h (Intent.reach_some rfl (hblank.trans hsome)) rfl

theorem means_notice (now : Timestamp) (h : Host) (p : Notifier) (call : Call) (missed : UInt32) :
    Means now (p.notice call missed) call.handle ⟨some "smsto", call.handle.address⟩ h := by
  have hsmsto : Handle.ofParts "smsto" call.handle.address = ⟨some "smsto", call.handle.address⟩ := rfl
  rw [← hsmsto, Notifier.notice]
  by_cases hone : missed = 1
  · rw [if_pos hone]
    exact means_of_buttons now h rfl rfl rfl (.inr ⟨_, _, rfl, rfl, rfl⟩)
  · rw [if_neg hone]
    exact means_of_buttons now h rfl rfl rfl (.inl rfl)

theorem isBlankText_ofText {s : String} (hfeed : '\n' ∈ (Handle.ofText s).address.toList) :
    Text.isBlankText (Handle.ofText s).address = false := by
  rw [← Bool.not_eq_true]
  intro hblank
  rw [(Handle.isEmpty_ofText_iff s).mp hblank] at hfeed
  cases hfeed

theorem means_reread (now : Timestamp) (h : Host) (p : Notifier) {call : Call} {s : String}
    (htext : call.handle = Handle.ofText s) (missed : UInt32) :
    ∃ message : Handle, message.toText = "smsto:" ++ call.handle.address ∧
      Means now (p.notice call missed).reread call.handle message h := by
  by_cases hfeed : missed = 1 ∧ '\n' ∈ call.handle.address.toList
  · obtain ⟨rfl, hfeed⟩ := hfeed
    refine ⟨⟨none, "smsto:" ++ call.handle.address⟩, rfl, ?_⟩
    have hsame : call.handle.reread = call.handle := by rw [htext, Handle.reread_ofText]
    have hmessage := Notifier.reread_messageButton (p := p) htext
    rw [if_pos hfeed] at hmessage
    have hsome : Text.isBlankText call.handle.address = false := by
      rw [htext] at hfeed ⊢
      exact isBlankText_ofText hfeed
    rw [Notifier.notice, if_pos rfl, Notifier.reread_singleNotice hsame, hmessage]
    refine means_of_buttons now h rfl rfl ?_ (.inr ⟨_, _, rfl, rfl, rfl⟩)
    rw [hsome, Text.isBlankText, String.toList_append, List.all_append]
    rfl
  · rw [not_and] at hfeed
    rw [Notifier.reread_notice ⟨s, htext⟩ hfeed]
    refine ⟨_, ?_, means_notice now h p call missed⟩
    rfl

structure ShowsOnly (P : Notification → Prop) (p : Notifier) (h : Host) : Prop where
  notifier : ∃ count, h.notifier = { p with count }
  shown : ∀ m ∈ h.outlet.memories, ∀ n, m.active.get? Notifier.noticeId = some n → P n

namespace ShowsOnly

variable {P : Notification → Prop} {p : Notifier}

theorem of_same (hshows : ShowsOnly P p h) (hsame : SameNotices h h') : ShowsOnly P p h' := by
  constructor
  · rw [hsame.notifier]
    exact hshows.notifier
  · rw [hsame.outlet]
    exact hshows.shown

theorem setCount (hshows : ShowsOnly P p h) (count : UInt32) : ShowsOnly P p (h.setCount count) := by
  obtain ⟨count', hnotifier⟩ := hshows.notifier
  refine ⟨⟨count, ?_⟩, hshows.shown⟩
  change { h.notifier with count } = _
  rw [hnotifier]

theorem of_passes (hshows : ShowsOnly P p h) {f : MemorySink → MemorySink}
    (hpasses : Outlet.Passes f h.outlet h'.outlet) (hnotifier : h'.notifier = h.notifier)
    (hf : ∀ m n, (f m).active.get? Notifier.noticeId = some n →
      P n ∨ m.active.get? Notifier.noticeId = some n) : ShowsOnly P p h' := by
  constructor
  · rw [hnotifier]
    exact hshows.notifier
  · intro m hm n hn
    rw [hpasses.memories] at hm
    split at hm
    · exact hshows.shown m hm n hn
    · obtain ⟨m₀, hm₀, rfl⟩ := List.mem_map.mp hm
      rcases hf m₀ n hn with hP | hbefore
      · exact hP
      · exact hshows.shown m₀ hm₀ n hbefore

theorem notify (hshows : ShowsOnly P p h) (now : Timestamp) {id : Int32} {n : Notification}
    (hn : id = Notifier.noticeId → P n) : ShowsOnly P p (h.notify now id n).2 := by
  rw [notify_eq_ask, ask_eq]
  refine hshows.of_passes (Outlet.passes_notify now id n h.outlet h.scene) rfl ?_
  intro m n' hn'
  rw [MemorySink.notify, Board.get?_insert] at hn'
  split at hn'
  · rename_i hid
    cases hn'
    exact .inl (hn hid.symm)
  · exact .inr hn'

theorem cancel (hshows : ShowsOnly P p h) (now : Timestamp) (id : Int32) :
    ShowsOnly P p (h.cancel now id).2 := by
  rw [cancel_eq_ask, ask_eq]
  refine hshows.of_passes (Outlet.passes_cancel now id h.outlet h.scene) rfl ?_
  intro m n hn
  rw [MemorySink.cancel, Board.get?_erase] at hn
  split at hn
  · cases hn
  · exact .inr hn

theorem orTell {r : Except Fault Unit × Host} (hshows : ShowsOnly P p r.2)
    (failed : String → Fault → LogEvent) : ShowsOnly P p (orTell failed r) := by
  obtain ⟨scene, -, heq⟩ := orTell_eq failed r
  rw [heq]
  exact hshows.of_same ⟨rfl, rfl, rfl⟩

theorem clear (hshows : ShowsOnly P p h) (now : Timestamp) : ShowsOnly P p (h.clear now) := by
  have hcounted := (hshows.of_same (.markRead h)).setCount 0
  rw [Host.clear, withdrawNotice_eq_orTell]
  exact (orTell (hcounted.cancel now Notifier.noticeId) _).of_same (.tell _ _)

theorem showMissed (hshows : ShowsOnly P p h) (now : Timestamp) {call : Call}
    (hcall : ∀ missed, P (p.notice call missed)) : ShowsOnly P p (h.showMissed now call) := by
  obtain ⟨count, hnotifier⟩ := hshows.notifier
  have hnotice : P (h.notifier.notice call (h.count + 1)) := by
    rw [hnotifier]
    exact hcall _
  rw [showMissed_eq, postNotice_eq_orTell]
  have hcounted : ShowsOnly P p
      (((h.setCount (h.count + 1)).tell (h.notifier.composeEvent call (h.count + 1))).tell
        (.notificationAdded call.describe (h.count + 1))) :=
    (hshows.setCount (h.count + 1)).of_same ⟨rfl, rfl, rfl⟩
  exact orTell (hcounted.notify now fun _ => hnotice) _

theorem heard (hshows : ShowsOnly P p h) (now : Timestamp) {e : CallEvent}
    (hcall : e.isMissed = true → ∀ missed, P (p.notice e.call missed)) (listeners : List Listener) :
    ShowsOnly P p (listeners.foldl (hear now e) h) := by
  induction listeners generalizing h with
  | nil => exact hshows
  | cons listener listeners ih =>
    apply ih
    cases listener with
    | notifier =>
      rw [hear]
      split
      · rename_i hmissed
        exact hshows.showMissed now (hcall hmissed)
      · exact hshows
    | recorder =>
      rw [hear]
      split
      · exact hshows.of_same (.record e.call h)
      · exact hshows
    | probe name => exact hshows.of_same (.note _ h)

theorem receive (hshows : ShowsOnly P p h) (now : Timestamp) (i : Intent) :
    ShowsOnly P p (h.receive now i).2 := by
  have htold := hshows.of_same (.tell (.actionReceived i.action) h)
  rw [receive_eq]
  split
  · exact htold.clear now
  · exact htold

theorem step (hshows : ShowsOnly P p h) (now : Timestamp) {step : HostStep}
    (hcall : ∀ call, step.missed? = some call → ∀ missed, P (p.notice call missed))
    (hposted : ∀ n, step = .notify Notifier.noticeId n → P n) :
    ShowsOnly P p (h.step now step).2 := by
  cases step with
  | event e =>
    have htold := hshows.of_same
      (.tell (.stateChanged e.call.describe e.before e.after h.listeners.length) h)
    refine htold.heard now (fun hmissed => hcall e.call ?_) h.listeners
    rw [HostStep.missed?_event, if_pos hmissed]
  | added call => exact hshows.of_same (.tellProbes "added" call h)
  | removed call => exact hshows.of_same (.tellProbes "removed" call h)
  | showMissed call => exact hshows.showMissed now (hcall call rfl)
  | clear => exact hshows.clear now
  | receive i => exact hshows.receive now i
  | receiveAction name data =>
    rw [Host.step, snd_reply, Host.receiveAction]
    cases IntentAction.ofText name with
    | error fault => exact hshows
    | ok action => exact hshows.receive now _
  | notify id n => exact hshows.notify now fun hid => hposted n (hid ▸ rfl)
  | cancel id => exact hshows.cancel now id
  | insert e => exact hshows.of_same (.insert e h)
  | update filter values => exact hshows.of_same (.update filter values h)
  | query filter => exact hshows.of_same (.query filter h)

theorem run (hshows : ShowsOnly P p h) {steps : List (Timestamp × HostStep)}
    (hcall : ∀ s ∈ steps, ∀ call, s.2.missed? = some call → ∀ missed, P (p.notice call missed))
    (hposted : ∀ s ∈ steps, ∀ n, s.2 = .notify Notifier.noticeId n → P n) :
    ShowsOnly P p (h.run steps) := by
  induction steps generalizing h with
  | nil => exact hshows
  | cons first steps ih =>
    apply ih
    · exact hshows.step first.1 (hcall first List.mem_cons_self) (hposted first List.mem_cons_self)
    · exact fun s hs => hcall s (List.mem_cons_of_mem first hs)
    · exact fun s hs => hposted s (List.mem_cons_of_mem first hs)

end ShowsOnly

/-- Where what is shown under the id of the notifier after a run may come from. -/
inductive Origin (start : Host) (steps : List (Timestamp × HostStep)) (n : Notification) : Prop
  | initial {m : MemorySink} (hm : m ∈ start.outlet.memories)
    (hn : m.active.get? Notifier.noticeId = some n)
  | posted {now : Timestamp} (hstep : (now, .notify Notifier.noticeId n) ∈ steps)
  | composed {now : Timestamp} {step : HostStep} {call : Call} (hstep : (now, step) ∈ steps)
    (hcall : step.missed? = some call) (missed : UInt32)
    (hn : n = start.notifier.notice call missed)

theorem showsOnly_origin (start : Host) (steps : List (Timestamp × HostStep)) :
    ShowsOnly (Origin start steps) start.notifier (start.run steps) := by
  have hstart : ShowsOnly (Origin start steps) start.notifier start :=
    ⟨⟨start.count, rfl⟩, fun _ hm _ hn => .initial hm hn⟩
  apply hstart.run
  · rintro ⟨now, step⟩ hs call hcall missed
    exact .composed hs hcall missed rfl
  · rintro ⟨now, step⟩ hs n rfl
    exact .posted hs

/-- In every state that a run may lead to: an intent that lacks a handle is refused, and nothing but
the log tells of it; any other one has its effect, with its data unchanged, and clears the missed
calls unless it opens the call log. What a sink in memory shows under the id of the notifier was there
from the start, was posted by the host itself or is the notification about a call that was missed.
The intents of the latter mean what it shows, also if it was read back from a journal. -/
theorem intents_mean_what_is_shown (start : Host) (steps : List (Timestamp × HostStep))
    (now : Timestamp) :
    (∀ i, Delivers now i (start.run steps)) ∧
      (∀ m ∈ (start.run steps).outlet.memories, ∀ n,
        m.active.get? Notifier.noticeId = some n → Origin start steps n) ∧
      ∀ (p : Notifier) (call : Call) (missed : UInt32),
        Means now (p.notice call missed) call.handle ⟨some "smsto", call.handle.address⟩
          (start.run steps) ∧
        ((p.notice call missed).buttons = [] ↔ missed ≠ 1) ∧
        ∀ s, call.handle = Handle.ofText s →
          ∃ message : Handle, message.toText = "smsto:" ++ call.handle.address ∧
            Means now (p.notice call missed).reread call.handle message (start.run steps) := by
  refine ⟨fun i => delivers now i _, (showsOnly_origin start steps).shown, ?_⟩
  intro p call missed
  refine ⟨means_notice now _ p call missed, ?_, fun s hs => means_reread now _ p hs missed⟩
  rw [Notifier.notice]
  by_cases hone : missed = 1
  · rw [if_pos hone]
    exact ⟨fun hnone => absurd hnone (List.cons_ne_nil _ _), fun hmore => absurd hone hmore⟩
  · rw [if_neg hone]
    exact ⟨fun _ => hone, fun _ => rfl⟩

theorem intents_mean_what_is_shown_of_one :
    let moment : Timestamp := ⟨⟨2024, 1, 2, by decide⟩, 3, 4, 5, 0, by decide⟩
    let call : Call := ⟨⟨some "tel", "555"⟩, none, moment, .incomingMissed, none, none⟩
    let host : Host := ⟨.ofFiles (.blank []), .memory [], .direct (.memory .empty),
      .ofSettings .standard, [.recorder, .notifier], []⟩
    let h := host.run [(moment, .event ⟨call, .ringing, .disconnected⟩)]
    let n := host.notifier.notice call 1
    (∃ m ∈ h.outlet.memories, m.active.get? Notifier.noticeId = some n) ∧
      (∃ callBack write : Button, n.buttons = [callBack, write] ∧
        Clears moment callBack.intent (.dial call.handle) h) ∧
      Delivers moment (.broadcast .callBack none) h := by
  intro moment call host h n
  obtain ⟨hdelivers, -, hmeans⟩ := intents_mean_what_is_shown host
    [(moment, .event ⟨call, .ringing, .disconnected⟩)] moment
  obtain ⟨hnotice, hbuttons, -⟩ := hmeans host.notifier call 1
  refine ⟨⟨_, List.mem_cons_self, by decide +kernel⟩, ?_, hdelivers _⟩
  obtain hnone | ⟨callBack, write, hlist, -, hsome⟩ := hnotice.buttons
  · exact absurd rfl (hbuttons.mp hnone)
  · exact ⟨callBack, write, hlist, (hsome (by decide)).1⟩

end Host

end CallNotice
