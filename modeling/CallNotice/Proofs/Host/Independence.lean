import CallNotice.Proofs.Host.Isolation

namespace CallNotice

def Listener.remark? (e : CallEvent) : Listener → Option String
  | .notifier | .recorder => none
  | .probe name => some (name ++ ":" ++ e.before.label ++ "->" ++ e.after.label ++ " " ++
      e.call.handle.toText)

namespace Host

open Journal

/-- The host with a new bus, after these events. -/
def afterEvents (listeners : List Listener) (events : List (Timestamp × CallEvent)) (h : Host) :
    Host :=
  ({ h with listeners := [] }.registerAll listeners).run
    (events.map fun (now, e) => (now, .event e))

theorem afterEvents_replay (listeners : List Listener) (now : Timestamp) (events : List CallEvent)
    (h : Host) : h.afterEvents listeners (events.map fun e => (now, e)) =
      ({ h with listeners := [] }.registerAll listeners).replay now events := by
  rw [afterEvents, replay, run, List.map_map, List.foldl_map]
  rfl

variable {h h' a a' b b' : Host}

section Listening

theorem registerAll_eq (listeners : List Listener) (h : Host) :
    ∃ scene, scene.files = h.scene.files ∧
      h.registerAll listeners = { h with listeners := h.listeners ++ listeners, scene } := by
  unfold registerAll
  induction listeners generalizing h with
  | nil => exact ⟨h.scene, rfl, by rw [List.append_nil]; rfl⟩
  | cons listener listeners ih =>
    obtain ⟨scene, hfiles, heq⟩ := ih (h.register listener)
    refine ⟨scene, hfiles, ?_⟩
    rw [List.foldl_cons, heq, List.append_cons]
    rfl

theorem told_hear (now : Timestamp) (e : CallEvent) (h : Host) (listener : Listener) :
    (hear now e h listener).listeners = h.listeners ∧
      (hear now e h listener).told = h.told ++ (listener.remark? e).toList := by
  cases listener with
  | notifier =>
    rw [Listener.remark?, Option.toList_none, List.append_nil, hear]
    by_cases hmissed : e.isMissed = true
    · rw [if_pos hmissed, showMissed_eq, postNotice_eq_orTell, notify_eq_ask]
      obtain ⟨scene, -, heq⟩ := orTell_eq .postFailed (ask _ _)
      rw [heq, ask_eq]
      exact ⟨rfl, rfl⟩
    · rw [if_neg hmissed]
      exact ⟨rfl, rfl⟩
  | recorder =>
    rw [Listener.remark?, Option.toList_none, List.append_nil, hear]
    by_cases hmissed : e.isMissed = true
    · obtain ⟨event, heq⟩ := record_eq e.call h
      rw [if_pos hmissed, heq, insert_eq]
      exact ⟨rfl, rfl⟩
    · rw [if_neg hmissed]
      exact ⟨rfl, rfl⟩
  | probe name => exact ⟨rfl, rfl⟩

theorem told_heard (now : Timestamp) (e : CallEvent) (listeners : List Listener) (h : Host) :
    (listeners.foldl (hear now e) h).listeners = h.listeners ∧
      (listeners.foldl (hear now e) h).told = h.told ++ listeners.filterMap (·.remark? e) := by
  induction listeners generalizing h with
  | nil => exact ⟨rfl, (List.append_nil _).symm⟩
  | cons listener listeners ih =>
    obtain ⟨hlisteners, htold⟩ := told_hear now e h listener
    obtain ⟨hlisteners', htold'⟩ := ih (hear now e h listener)
    refine ⟨hlisteners'.trans hlisteners, ?_⟩
    rw [List.foldl_cons, htold', htold, List.append_assoc, List.filterMap_cons]
    cases listener.remark? e <;> rfl

theorem told_run (events : List (Timestamp × CallEvent)) (h : Host) :
    (h.run (events.map fun (now, e) => (now, .event e))).told =
      h.told ++ events.flatMap fun (_, e) => h.listeners.filterMap (·.remark? e) := by
  induction events generalizing h with
  | nil => exact (List.append_nil _).symm
  | cons first events ih =>
    obtain ⟨hlisteners, htold⟩ := told_heard first.1 first.2 h.listeners
      (h.tell (.stateChanged first.2.call.describe first.2.before first.2.after h.listeners.length))
    rw [List.map_cons, run, List.foldl_cons]
    refine (ih (h.changeState first.1 first.2)).trans ?_
    rw [changeState, hlisteners, htold, List.append_assoc]
    rfl

end Listening

/-- A relation between two hosts of which the second has only the kept listeners. It depends on no
log, no bus and no probe, and hearing of an event keeps it. -/
structure Selects (keep : Listener → Bool) (R : Host → Host → Prop) : Prop where
  congr {a a' b b' : Host} (h : R a b) (hstore : a'.store = a.store) (houtlet : a'.outlet = a.outlet)
    (hnotifier : a'.notifier = a.notifier) (hfiles : a'.scene.files = a.scene.files)
    (hstore' : b'.store = b.store) (houtlet' : b'.outlet = b.outlet)
    (hnotifier' : b'.notifier = b.notifier) (hfiles' : b'.scene.files = b.scene.files) : R a' b'
  hear {a b : Host} (h : R a b) (now : Timestamp) (e : CallEvent) (listener : Listener) :
    R (hear now e a listener) (if keep listener then hear now e b listener else b)

namespace Selects

variable {keep : Listener → Bool} {R : Host → Host → Prop}

theorem heard (hR : Selects keep R) (now : Timestamp) (e : CallEvent) (listeners : List Listener)
    (h : R a b) :
    R (listeners.foldl (Host.hear now e) a) ((listeners.filter keep).foldl (Host.hear now e) b) := by
  rw [List.foldl_filter]
  induction listeners generalizing a b with
  | nil => exact h
  | cons listener listeners ih => exact ih (hR.hear h now e listener)

theorem run (hR : Selects keep R) {listeners : List Listener}
    (events : List (Timestamp × CallEvent)) (h : R a b) (ha : a.listeners = listeners)
    (hb : b.listeners = listeners.filter keep) :
    R (a.run (events.map fun (now, e) => (now, .event e)))
      (b.run (events.map fun (now, e) => (now, .event e))) := by
  induction events generalizing a b with
  | nil => exact h
  | cons first events ih =>
    obtain ⟨now, e⟩ := first
    apply ih
    · change R (a.changeState now e) (b.changeState now e)
      rw [changeState, changeState, ha, hb]
      exact hR.heard now e listeners (hR.congr h rfl rfl rfl rfl rfl rfl rfl rfl)
    · exact (told_heard now e _ _).1.trans ha
    · exact (told_heard now e _ _).1.trans hb

theorem afterEvents (hR : Selects keep R) (listeners : List Listener)
    (events : List (Timestamp × CallEvent)) (h : R a b) :
    R (a.afterEvents listeners events) (b.afterEvents (listeners.filter keep) events) := by
  obtain ⟨scene, hfiles, ha⟩ := registerAll_eq listeners { a with listeners := [] }
  obtain ⟨scene', hfiles', hb⟩ := registerAll_eq (listeners.filter keep) { b with listeners := [] }
  rw [Host.afterEvents, Host.afterEvents, ha, hb]
  exact hR.run events (hR.congr h rfl rfl rfl hfiles rfl rfl rfl hfiles') rfl rfl

end Selects

structure SameShown (a b : Host) : Prop where
  notifier : a.notifier = b.notifier
  isDry : a.outlet.isDry = b.outlet.isDry
  memories : a.outlet.memories = b.outlet.memories

namespace SameShown

theorem of_same (h : SameShown a b) (hnotices : SameNotices a a') : SameShown a' b := by
  refine ⟨hnotices.notifier.trans h.notifier, ?_, ?_⟩
  · rw [hnotices.outlet, h.isDry]
  · rw [hnotices.outlet, h.memories]

theorem postNotice (h : SameShown a b) (now : Timestamp) (n : Notification) :
    SameShown (a.postNotice now n) (b.postNotice now n) := by
  obtain ⟨scene, -, ha⟩ := orTell_eq .postFailed (a.notify now Notifier.noticeId n)
  obtain ⟨scene', -, hb⟩ := orTell_eq .postFailed (b.notify now Notifier.noticeId n)
  have hpasses := Outlet.passes_notify now Notifier.noticeId n a.outlet a.scene
  have hpasses' := Outlet.passes_notify now Notifier.noticeId n b.outlet b.scene
  rw [postNotice_eq_orTell, postNotice_eq_orTell, ha, hb, notify_eq_ask, notify_eq_ask, ask_eq,
    ask_eq]
  refine ⟨h.notifier, ?_, ?_⟩
  · exact hpasses.isDry.trans (h.isDry.trans hpasses'.isDry.symm)
  · rw [hpasses.memories, hpasses'.memories, h.isDry, h.memories]

theorem showMissed (h : SameShown a b) (now : Timestamp) (call : Call) :
    SameShown (a.showMissed now call) (b.showMissed now call) := by
  have hcount : a.count = b.count := congrArg Notifier.count h.notifier
  rw [showMissed_eq, showMissed_eq, h.notifier, hcount]
  apply postNotice
  refine ⟨?_, h.isDry, h.memories⟩
  change { a.notifier with count := b.count + 1 } = { b.notifier with count := b.count + 1 }
  rw [h.notifier]

end SameShown

theorem selects_sameShown : Selects (· = .notifier) SameShown where
  congr := by
    intro a a' b b' h _ houtlet hnotifier _ _ houtlet' hnotifier' _
    refine ⟨?_, ?_, ?_⟩
    · rw [hnotifier, hnotifier', h.notifier]
    · rw [houtlet, houtlet', h.isDry]
    · rw [houtlet, houtlet', h.memories]
  hear := by
    intro a b h now e listener
    cases listener with
    | notifier =>
      rw [if_pos (decide_eq_true rfl), Host.hear, Host.hear]
      split
      · exact h.showMissed now e.call
      · exact h
    | recorder =>
      rw [if_neg (by decide), Host.hear]
      split
      · exact h.of_same (.record e.call a)
      · exact h
    | probe name =>
      rw [if_neg (by simp)]
      exact h.of_same (.note _ a)

theorem SameLog.showMissed (h : SameLog a b) (now : Timestamp) (call : Call) :
    SameLog (a.showMissed now call) b := by
  rw [showMissed_eq]
  apply of_spares _ (.postNotice now _ _)
  exact h.congr rfl rfl rfl rfl rfl

theorem selects_sameLog : Selects (· = .recorder) SameLog where
  congr := by
    intro a a' b b' h hstore houtlet _ hfiles hstore' _ _ hfiles'
    exact h.congr hstore (congrArg Outlet.written houtlet) hfiles hstore' hfiles'
  hear := by
    intro a b h now e listener
    cases listener with
    | notifier =>
      rw [if_neg (by decide), Host.hear]
      split
      · exact h.showMissed now e.call
      · exact h
    | recorder =>
      rw [if_pos (decide_eq_true rfl), Host.hear, Host.hear]
      split
      · exact h.record e.call
      · exact h
    | probe name =>
      rw [if_neg (by simp)]
      exact h.congr rfl rfl rfl rfl rfl

/-- What the notifier has counted and shown is what it would without the other listeners, the rows
are what they would be without other listeners than recorders, and neither depends on the order of
the listeners. Every probe is told every event, in order. -/
theorem listeners_independent (h : Host) (listeners : List Listener)
    (events : List (Timestamp × CallEvent)) :
    let ends := fun listeners => h.afterEvents listeners events
    ((ends listeners).count = (ends (listeners.filter (· = .notifier))).count ∧
        (ends listeners).outlet.memories =
          (ends (listeners.filter (· = .notifier))).outlet.memories) ∧
      (h.LogApart → (ends listeners).rows = (ends (listeners.filter (· = .recorder))).rows) ∧
      (∀ permuted, listeners.Perm permuted → (ends listeners).count = (ends permuted).count ∧
        (ends listeners).outlet.memories = (ends permuted).outlet.memories ∧
        (h.LogApart → (ends listeners).rows = (ends permuted).rows)) ∧
      (ends listeners).told =
        h.told ++ events.flatMap fun (_, e) => listeners.filterMap (·.remark? e) := by
  intro ends
  have hshown (listeners : List Listener) :
      SameShown (ends listeners) (ends (listeners.filter (· = .notifier))) :=
    selects_sameShown.afterEvents listeners events ⟨rfl, rfl, rfl⟩
  have hlog (listeners : List Listener) (hapart : h.LogApart) :
      SameLog (ends listeners) (ends (listeners.filter (· = .recorder))) :=
    selects_sameLog.afterEvents listeners events (hapart.sameLog rfl rfl)
  have hcount (listeners : List Listener) :
      (ends listeners).count = (ends (listeners.filter (· = .notifier))).count :=
    congrArg Notifier.count (hshown listeners).notifier
  have hperm {listeners permuted : List Listener} (hpermuted : listeners.Perm permuted)
      (kept : Listener) : listeners.filter (· = kept) = permuted.filter (· = kept) := by
    rw [List.filter_eq, List.filter_eq, hpermuted.count_eq]
  refine ⟨⟨hcount listeners, (hshown listeners).memories⟩, fun hapart => (hlog listeners hapart).rows,
    ?_, ?_⟩
  · intro permuted hpermuted
    refine ⟨?_, ?_, fun hapart => ?_⟩
    · rw [hcount, hcount permuted, hperm hpermuted]
    · rw [(hshown listeners).memories, (hshown permuted).memories, hperm hpermuted]
    · rw [(hlog listeners hapart).rows, (hlog permuted hapart).rows, hperm hpermuted]
  · obtain ⟨scene, -, heq⟩ := registerAll_eq listeners { h with listeners := [] }
    change (h.afterEvents listeners events).told = _
    rw [afterEvents, heq, told_run]
    rfl

theorem listeners_independent_of_three :
    let moment : Timestamp := ⟨⟨2024, 1, 2, by decide⟩, 3, 4, 5, 0, by decide⟩
    let call : Call := ⟨⟨some "tel", "555"⟩, none, moment, .incomingMissed, none, none⟩
    let host : Host := ⟨.ofFiles (.blank ["home"]), .journal "calls.jsonl",
      .dispatcher [.memory .empty, .journal ⟨"notices.jsonl", 0⟩] false, .ofSettings .standard,
      [], []⟩
    let events : List (Timestamp × CallEvent) := [(moment, ⟨call, .ringing, .disconnected⟩)]
    [Listener.notifier, .probe "p", .recorder].Perm [.recorder, .notifier, .probe "p"] ∧
      (host.afterEvents [.notifier, .probe "p", .recorder] events).rows =
        (host.afterEvents [.recorder, .notifier, .probe "p"] events).rows := by
  intro moment call host events
  have hapart : host.LogApart := by
    rintro path ⟨⟩ other hother
    obtain rfl : other = "notices.jsonl" := List.mem_singleton.mp hother
    exact ⟨by decide +kernel, .inl (by decide), by decide⟩
  have hperm : [Listener.notifier, .probe "p", .recorder].Perm
      [.recorder, .notifier, .probe "p"] := by decide
  obtain ⟨-, -, hpermuted, -⟩ :=
    listeners_independent host [.notifier, .probe "p", .recorder] events
  exact ⟨hperm, (hpermuted _ hperm).2.2 hapart⟩

/-- Where the notifier puts its file in place of a directory that the recorder needs, the rows are
lost, unless the recorder is served first. -/
theorem rows_ne_of_notified :
    let moment : Timestamp := ⟨⟨2024, 1, 2, by decide⟩, 3, 4, 5, 0, by decide⟩
    let call : Call := ⟨⟨some "tel", "555"⟩, none, moment, .incomingMissed, none, none⟩
    let host : Host := ⟨.ofFiles (.blank ["home"]), .journal "a/calls.jsonl",
      .direct (.journal ⟨"a", 1⟩), .ofSettings .standard, [], []⟩
    let events : List (Timestamp × CallEvent) := [(moment, ⟨call, .ringing, .disconnected⟩)]
    (host.afterEvents [.notifier, .recorder] events).rows.length = 0 ∧
      (host.afterEvents [.recorder] events).rows.length = 1 ∧
      (host.afterEvents [.recorder, .notifier] events).rows.length = 1 := by
  decide +kernel

end Host

end CallNotice
