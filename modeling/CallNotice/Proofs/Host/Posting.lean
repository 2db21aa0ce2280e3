import CallNotice.Proofs.Call
import CallNotice.Proofs.Host.Notice
import CallNotice.Proofs.Notification.Journal

namespace CallNotice

namespace NotificationJournal

open Journal

variable {journal next : NotificationJournal} {s s' : Scene} {now : Timestamp} {id : Int32}
  {n : Notification}

theorem active_notified (h : (journal.notify now id n).run s = (.ok next, s'))
    (habsent : s.files.node? (s.files.place journal.path) = none) :
    active journal.path s'.files = [(id, n.reread)] := by
  obtain ⟨s₁, happend, hfiles⟩ := run_notify_ok h
  obtain ⟨-, hcontent⟩ := run_append_ok happend (.inl habsent)
  have hread : read (s.files.held journal.path ++
      line (NotificationRecord.toJson ⟨now, .notify, id, some n⟩)) =
      [⟨now, .notify, id, some n.reread⟩] := by
    rw [Files.held_of_absent habsent]
    exact ofContent_append_blank _ (endsBlank_of_tail_nil rfl) (NotificationRecord.ofJson?_toJson_eq _)
  rw [active, records_eq, hfiles]
  rcases hcontent with hcontent | ⟨⟨-, hlong⟩, -⟩
  · rw [Files.held_of_content? hcontent, hread]
    rfl
  · rw [hread] at hlong
    exact absurd hlong (by simp [maxRecords])

end NotificationJournal

def Notification.effects (n : Notification) : List (Except Fault Effect) :=
  n.buttons.map fun b => b.intent.effect

namespace Notifier

open Journal NotificationJournal

variable {p : Notifier} {call : Call} {missed : UInt32}

theorem reread_aggregateNotice :
    (p.aggregateNotice call missed).reread = p.aggregateNotice call missed := rfl

theorem reread_singleNotice (h : call.handle.reread = call.handle) :
    (p.singleNotice call).reread = { p.singleNotice call with
      buttons := [p.callBackButton call, (p.messageButton call).reread] } := by
  have hcallBack : (p.callBackButton call).reread = p.callBackButton call := by
    apply Button.reread_eq
    apply Intent.isReadBack
    rintro _ ⟨⟩
    exact Handle.isReadBack_iff.mpr h
  rw [Notification.reread, singleNotice, List.map_cons, hcallBack]
  rfl

theorem reread_messageButton {s : String} (h : call.handle = Handle.ofText s) :
    (p.messageButton call).reread =
      if '\n' ∈ call.handle.address.toList then
        { p.messageButton call with
          intent := .broadcast .sendMessage (some ⟨none, "smsto:" ++ call.handle.address⟩) }
      else p.messageButton call := by
  have hscheme : Handle.isScheme "smsto".toList = true := by decide
  have hmessage := Handle.reread_ofParts hscheme (h ▸ Handle.getLast?_address_ofText s)
  rw [Button.reread, messageButton, Intent.sendMessage, Intent.reread, Intent.broadcast,
    Option.map_some, hmessage]
  by_cases hfeed : '\n' ∈ call.handle.address.toList
  · simp only [hfeed, if_true]
    rfl
  · simp only [hfeed, if_false]

theorem effect_sendMessage (h : Handle) :
    (Intent.broadcast .sendMessage (some h)).effect =
      if h.isEmpty then .error (.handleRequired .sendMessage) else .ok (.composeMessage h) := by
  unfold Intent.effect Intent.broadcast Intent.reach
  cases hempty : h.isEmpty with
  | true => simp [Option.filter, hempty]
  | false => simp [Option.filter, hempty]

theorem effect_sendMessage_ne (address : String) :
    (Intent.broadcast .sendMessage (some ⟨none, "smsto:" ++ address⟩)).effect ≠
      (Intent.broadcast .sendMessage (some (.ofParts "smsto" address))).effect := by
  have hempty : Handle.isEmpty ⟨none, "smsto:" ++ address⟩ = false := by
    rw [Bool.eq_false_iff]
    intro h
    have hblank : Text.isBlank 's' = true :=
      List.all_eq_true.mp h 's' (by rw [String.toList_append]; exact List.mem_cons_self)
    exact absurd hblank (by decide)
  rw [effect_sendMessage, effect_sendMessage, hempty]
  cases (Handle.ofParts "smsto" address).isEmpty with
  | true => exact nofun
  | false =>
    intro heq
    cases heq

theorem reread_notice (htext : ∃ s, call.handle = Handle.ofText s)
    (h : missed = 1 → '\n' ∉ call.handle.address.toList) :
    (p.notice call missed).reread = p.notice call missed := by
  obtain ⟨s, hs⟩ := htext
  rw [notice]
  by_cases hone : missed = 1
  · have hsame : call.handle.reread = call.handle := by
      rw [hs, Handle.reread_ofText]
    rw [if_pos hone, reread_singleNotice hsame, reread_messageButton hs, if_neg (h hone)]
    rfl
  · rw [if_neg hone, reread_aggregateNotice]

theorem effects_reread_notice_ne (htext : ∃ s, call.handle = Handle.ofText s)
    (hfeed : '\n' ∈ call.handle.address.toList) :
    (p.notice call 1).reread.effects ≠ (p.notice call 1).effects := by
  obtain ⟨s, hs⟩ := htext
  have hsame : call.handle.reread = call.handle := by
    rw [hs, Handle.reread_ofText]
  rw [notice, if_pos rfl, reread_singleNotice hsame, reread_messageButton hs, if_pos hfeed]
  intro heq
  obtain ⟨-, hmessage⟩ := List.cons.inj heq
  exact effect_sendMessage_ne call.handle.address (List.cons.inj hmessage).1

/-- The notification that is composed for a call read from JSON is read from its journal as it was
posted, and its buttons do what they did, exactly if it is about more than one call or the address of
the call has no line feed. -/
theorem notice_read_back_iff {now₀ : Timestamp} {room : Nat} {j : Json}
    (hcall : Call.ofJson? now₀ room j = some call) (p : Notifier) (missed : UInt32) {s : Scene}
    {path : String} (habsent : s.files.node? (s.files.place path) = none) (writes : Nat)
    (now : Timestamp) (id : Int32) :
    ∃ n, p.compose call missed = .ok n ∧
      (Usable path s → ∃ next s', (notify now id n ⟨path, writes⟩).run s = (.ok next, s')) ∧
      ∀ {next : NotificationJournal} {s' : Scene},
        (notify now id n ⟨path, writes⟩).run s = (.ok next, s') →
        ∃ n', active path s'.files = [(id, n')] ∧
          (n' = n ↔ (missed = 1 → '\n' ∉ call.handle.address.toList)) ∧
          (n'.effects = n.effects ↔ (missed = 1 → '\n' ∉ call.handle.address.toList)) := by
  have htext := Call.exists_ofText_of_ofJson? hcall
  refine ⟨_, compose_eq p call missed, ?_, ?_⟩
  · intro husable
    have husable' : Usable (NotificationJournal.mk path writes).path s := husable
    obtain ⟨s', hnotify, -⟩ := usable_notify now id (p.notice call missed) husable'
    exact ⟨_, s', hnotify⟩
  · intro next s' hnotify
    have hkept : (p.notice call missed).reread.effects = (p.notice call missed).effects →
        missed = 1 → '\n' ∉ call.handle.address.toList := by
      rintro heffects rfl hfeed
      exact effects_reread_notice_ne htext hfeed heffects
    have hactive := active_notified hnotify habsent
    have hsame : (missed = 1 → '\n' ∉ call.handle.address.toList) →
        (p.notice call missed).reread = p.notice call missed := reread_notice htext
    exact ⟨_, hactive, ⟨fun h => hkept (congrArg Notification.effects h), hsame⟩,
      ⟨hkept, fun h => congrArg Notification.effects (hsame h)⟩⟩

theorem notice_read_back_two_lines :
    let now : Timestamp := ⟨⟨2024, 1, 2, by decide⟩, 3, 4, 5, 0, by decide⟩
    let call : Call := ⟨⟨none, "555\n1234"⟩, none, now, .incomingMissed, none, none⟩
    ∃ n n' next s', Notifier.standard.compose call 1 = .ok n ∧
      (notify now 1 n ⟨"notices.jsonl", 0⟩).run (.ofFiles (.blank ["home"])) = (.ok next, s') ∧
      active "notices.jsonl" s'.files = [(1, n')] ∧ n' ≠ n ∧ n'.effects ≠ n.effects := by
  intro now call
  have hcall : Call.ofJson? now 127 call.toJson = some call := by decide
  have habsent : (Scene.ofFiles (.blank ["home"])).files.node?
      ((Scene.ofFiles (.blank ["home"])).files.place "notices.jsonl") = none := by decide
  have husable : Usable "notices.jsonl" (.ofFiles (.blank ["home"])) :=
    ⟨.ofFiles ((Files.blank ["home"]).put ["home", "notices.jsonl.lock"] (.file .empty)), by decide⟩
  have hfeed : ¬((1 : UInt32) = 1 → '\n' ∉ call.handle.address.toList) := by decide
  obtain ⟨n, hn, hposts, hshows⟩ :=
    notice_read_back_iff hcall Notifier.standard 1 habsent 0 now 1
  obtain ⟨next, s', hnotify⟩ := hposts husable
  obtain ⟨n', hactive, hsame, heffects⟩ := hshows hnotify
  exact ⟨n, n', next, s', hn, hnotify, hactive, fun h => hfeed (hsame.mp h),
    fun h => hfeed (heffects.mp h)⟩

end Notifier

end CallNotice
