import CallNotice.Proofs.Host.Missed
import CallNotice.Proofs.Host.SameLog
import CallNotice.Proofs.Notification.Memories

namespace CallNotice

open Journal Act

theorem Outlet.unspoken_request {o : Outlet} (f : Sink → Act Sink) (line : Sink → String)
    (failed : String → Fault → LogEvent) (hdry : o.isDry = true) (s : Scene) :
    s.Unspoken ((o.request f line failed).run s).2 := by
  cases o with
  | direct sink => cases hdry
  | dispatcher sinks dryRun =>
    obtain rfl : dryRun = true := hdry
    rw [Outlet.run_request_dryRun]
    exact ⟨rfl, rfl⟩

namespace Host

/-- How a dispatcher and a sink in memory on its own stand to each other when they have begun as
these two and have seen the same requests. -/
structure Follows (o₀ : Outlet) (m₀ : MemorySink) (o : Outlet) (m : MemorySink) : Prop where
  isDispatcher : o.IsDispatcher
  isDry : o.isDry = o₀.isDry
  dryRun : o₀.isDry = true → o = o₀
  memory : o₀.isDry = false → ∀ i : Nat, o₀.memories[i]? = some m₀ → o.memories[i]? = some m

variable {o₀ o next : Outlet} {m₀ m : MemorySink}

theorem Follows.dispatches (h : Follows o₀ m₀ o m) {f : MemorySink → MemorySink}
    (hnext : Outlet.Dispatches f o next) : Follows o₀ m₀ next (f m) := by
  refine ⟨hnext.isDispatcher, hnext.isDry.trans h.isDry, fun hdry => ?_, fun hwet i hi => ?_⟩
  · rw [hnext.dryRun (h.isDry.trans hdry), h.dryRun hdry]
  · rw [hnext.memories, h.isDry, hwet, if_neg Bool.false_ne_true, List.getElem?_map,
      h.memory hwet i hi, Option.map_some]

structure Mirrors (o₀ : Outlet) (m₀ : MemorySink) (a b : Host) : Prop where
  log : SameLog a b
  trace : o₀.isDry = true → SameTrace a b
  notifier : a.notifier = b.notifier
  listeners : a.listeners = b.listeners
  sink : ∃ m, b.outlet = .direct (.memory m) ∧ Follows o₀ m₀ a.outlet m

variable {h a a' b b' : Host}

namespace Mirrors

theorem of_log (h : Mirrors o₀ m₀ a b) (hlog : SameLog a' b')
    (htrace : o₀.isDry = true → SameTrace a' b') (ha : SameNotices a a') (hb : SameNotices b b') :
    Mirrors o₀ m₀ a' b' := by
  refine ⟨hlog, htrace, ?_, ?_, ?_⟩
  · rw [ha.notifier, hb.notifier, h.notifier]
  · rw [ha.listeners, hb.listeners, h.listeners]
  · rw [ha.outlet, hb.outlet]
    exact h.sink

theorem tell (h : Mirrors o₀ m₀ a b) (event : LogEvent) :
    Mirrors o₀ m₀ (a.tell event) (b.tell event) :=
  h.of_log (h.log.tell event event) (fun hdry => (h.trace hdry).tell event) (.tell event a)
    (.tell event b)

theorem note (h : Mirrors o₀ m₀ a b) (text : String) : Mirrors o₀ m₀ (a.note text) (b.note text) :=
  h.of_log (h.log.congr rfl rfl rfl rfl rfl) (fun hdry => ⟨(h.trace hdry).store, (h.trace hdry).scene⟩)
    (.note text a) (.note text b)

theorem record (h : Mirrors o₀ m₀ a b) (call : Call) : Mirrors o₀ m₀ (a.record call) (b.record call) :=
  h.of_log (h.log.record call) (fun hdry => (h.trace hdry).record call) (.record call a)
    (.record call b)

theorem markRead (h : Mirrors o₀ m₀ a b) : Mirrors o₀ m₀ a.markRead b.markRead :=
  h.of_log h.log.markRead (fun hdry => (h.trace hdry).markRead) (.markRead a) (.markRead b)

theorem insert (h : Mirrors o₀ m₀ a b) (e : CallLogEntry) :
    Mirrors o₀ m₀ (a.insert e).2 (b.insert e).2 :=
  h.of_log (h.log.insert e)
    (fun hdry => ((h.trace hdry).insert e).scenes fun _ _ _ _ hnext => hnext.2) (.insert e a)
    (.insert e b)

theorem update (h : Mirrors o₀ m₀ a b) (filter : CallLogFilter) (values : CallLogUpdate) :
    Mirrors o₀ m₀ (a.update filter values).2 (b.update filter values).2 :=
  h.of_log (h.log.update filter values)
    (fun hdry => ((h.trace hdry).update filter values).scenes fun _ _ _ _ hnext => hnext.2)
    (.update filter values a) (.update filter values b)

theorem count (h : Mirrors o₀ m₀ a b) : a.count = b.count := congrArg Notifier.count h.notifier

theorem setCount (h : Mirrors o₀ m₀ a b) (count : UInt32) :
    Mirrors o₀ m₀ (a.setCount count) (b.setCount count) := by
  refine ⟨h.log.congr rfl rfl rfl rfl rfl,
    fun hdry => ⟨(h.trace hdry).store, (h.trace hdry).scene⟩, ?_, h.listeners, h.sink⟩
  change { a.notifier with count } = { b.notifier with count }
  rw [h.notifier]

theorem tellProbes (h : Mirrors o₀ m₀ a b) (what : String) (call : Call) :
    Mirrors o₀ m₀ (a.tellProbes what call) (b.tellProbes what call) := by
  rw [Host.tellProbes, Host.tellProbes, h.listeners]
  generalize b.listeners = listeners
  induction listeners generalizing a b with
  | nil => exact h
  | cons listener listeners ih =>
    apply ih
    cases listener with
    | probe name => exact h.note _
    | _ => exact h

theorem ask (h : Mirrors o₀ m₀ a b) (now : Timestamp) (step : SinkStep) (line : Sink → String)
    {failed : String → Fault → LogEvent} (hfailed : ∀ name fault, (failed name fault).AcceptsRows) :
    let request (o : Outlet) : Act Outlet := o.request (fun sink => sink.perform now step) line failed
    Agree (fun _ _ => Mirrors o₀ m₀) (fun _ _ => False) (a.ask (request a.outlet))
      (b.ask (request b.outlet)) := by
  intro request
  obtain ⟨m, houtlet, hfollows⟩ := h.sink
  have hworks : Works a.outlet.written LogEvent.AcceptsRows (Outlet.SameJournals a.outlet)
      (request a.outlet) := by
    refine Outlet.works_request _ (fun sink hsink => ?_) hfailed
    exact sink.works_perform now step fun _ => a.outlet.mem_journals hsink
  have hyields : (request a.outlet).Yields (Outlet.Dispatches (Sink.performed · step) a.outlet) :=
    Outlet.yields_request now step hfollows.isDispatcher
  have hlog := h.log.of_spares (SparesLog.ask hworks)
  obtain ⟨next, s', hrun, hnext⟩ := hyields a.scene
  have ha : a.ask (request a.outlet) = (.ok (), { a with outlet := next, scene := s' }) := by
    rw [Host.ask, hrun]
  have hb : b.ask (request b.outlet) =
      (.ok (), { b with outlet := .direct (.memory (Sink.performed m step)) }) := by
    rw [Host.ask, houtlet]
    cases step <;> rfl
  have hunspoken (hdry : o₀.isDry = true) : a.scene.Unspoken s' := by
    have hsaid : a.scene.Unspoken ((request a.outlet).run a.scene).2 :=
      Outlet.unspoken_request _ line failed (hfollows.isDry.trans hdry) a.scene
    rw [hrun] at hsaid
    exact hsaid
  rw [ha] at hlog ⊢
  rw [hb]
  refine .ok ⟨hlog.congr rfl rfl rfl rfl rfl, fun hdry => ?_, h.notifier, h.listeners, _, rfl,
    hfollows.dispatches hnext⟩
  obtain ⟨hstore, hfiles, htold⟩ := h.trace hdry
  obtain ⟨hsame, hquiet⟩ := hunspoken hdry
  exact ⟨hstore, hsame.symm.trans hfiles, hquiet.symm.trans htold⟩

theorem notify (h : Mirrors o₀ m₀ a b) (now : Timestamp) (id : Int32) (n : Notification) :
    Agree (fun _ _ => Mirrors o₀ m₀) (fun _ _ => False) (a.notify now id n) (b.notify now id n) := by
  rw [notify_eq_ask, notify_eq_ask, Outlet.notify_eq_request, Outlet.notify_eq_request]
  exact h.ask now (.notify id n) _ fun _ _ => rfl

theorem cancel (h : Mirrors o₀ m₀ a b) (now : Timestamp) (id : Int32) :
    Agree (fun _ _ => Mirrors o₀ m₀) (fun _ _ => False) (a.cancel now id) (b.cancel now id) := by
  rw [cancel_eq_ask, cancel_eq_ask, Outlet.cancel_eq_request, Outlet.cancel_eq_request]
  exact h.ask now (.cancel id) _ fun _ _ => rfl

theorem postNotice (h : Mirrors o₀ m₀ a b) (now : Timestamp) (n : Notification) :
    Mirrors o₀ m₀ (a.postNotice now n) (b.postNotice now n) := by
  rw [postNotice_eq_orTell, postNotice_eq_orTell]
  exact orTell_of_agree (h.notify now Notifier.noticeId n) fun _ _ _ => False.elim

theorem withdrawNotice (h : Mirrors o₀ m₀ a b) (now : Timestamp) :
    Mirrors o₀ m₀ (a.withdrawNotice now) (b.withdrawNotice now) := by
  rw [withdrawNotice_eq_orTell, withdrawNotice_eq_orTell]
  exact orTell_of_agree (h.cancel now Notifier.noticeId) fun _ _ _ => False.elim

theorem clear (h : Mirrors o₀ m₀ a b) (now : Timestamp) :
    Mirrors o₀ m₀ (a.clear now) (b.clear now) := by
  rw [Host.clear, Host.clear, h.count]
  exact ((h.markRead.setCount 0).withdrawNotice now).tell _

theorem showMissed (h : Mirrors o₀ m₀ a b) (now : Timestamp) (call : Call) :
    Mirrors o₀ m₀ (a.showMissed now call) (b.showMissed now call) := by
  rw [showMissed_eq, showMissed_eq, ← h.notifier, ← h.count]
  exact (((h.setCount _).tell _).tell _).postNotice now _

theorem heard (h : Mirrors o₀ m₀ a b) (now : Timestamp) (e : CallEvent) (listeners : List Listener) :
    Mirrors o₀ m₀ (listeners.foldl (hear now e) a) (listeners.foldl (hear now e) b) := by
  induction listeners generalizing a b with
  | nil => exact h
  | cons listener listeners ih =>
    apply ih
    cases listener with
    | notifier =>
      by_cases hmissed : e.isMissed = true
      · rw [hear, hear, if_pos hmissed, if_pos hmissed]
        exact h.showMissed now e.call
      · rw [hear, hear, if_neg hmissed, if_neg hmissed]
        exact h
    | recorder =>
      by_cases hmissed : e.isMissed = true
      · rw [hear, hear, if_pos hmissed, if_pos hmissed]
        exact h.record e.call
      · rw [hear, hear, if_neg hmissed, if_neg hmissed]
        exact h
    | probe name => exact h.note _

theorem changeState (h : Mirrors o₀ m₀ a b) (now : Timestamp) (e : CallEvent) :
    Mirrors o₀ m₀ (a.changeState now e) (b.changeState now e) := by
  rw [Host.changeState, Host.changeState, h.listeners]
  exact (h.tell _).heard now e b.listeners

theorem receive (h : Mirrors o₀ m₀ a b) (now : Timestamp) (i : Intent) :
    Mirrors o₀ m₀ (a.receive now i).2 (b.receive now i).2 := by
  have htold := h.tell (.actionReceived i.action)
  rw [receive_eq, receive_eq]
  split
  · exact htold.clear now
  · exact htold

theorem receiveAction (h : Mirrors o₀ m₀ a b) (now : Timestamp) (name : String)
    (data : Option String) :
    Mirrors o₀ m₀ (a.receiveAction now name data).2 (b.receiveAction now name data).2 := by
  rw [Host.receiveAction, Host.receiveAction]
  cases IntentAction.ofText name with
  | error fault => exact h
  | ok action => exact h.receive now _

theorem step (h : Mirrors o₀ m₀ a b) (now : Timestamp) (step : HostStep) :
    Mirrors o₀ m₀ (a.step now step).2 (b.step now step).2 := by
  cases step with
  | event e => exact h.changeState now e
  | added call => exact h.tellProbes "added" call
  | removed call => exact h.tellProbes "removed" call
  | showMissed call => exact h.showMissed now call
  | clear => exact h.clear now
  | receive i => exact h.receive now i
  | receiveAction name data =>
    rw [Host.step, Host.step, snd_reply, snd_reply]
    exact h.receiveAction now name data
  | notify id n =>
    obtain ⟨_, _, a', b', ha, hb, hnext⟩ := (h.notify now id n).granted
    rw [Host.step, Host.step, snd_reply, snd_reply, ha, hb]
    exact hnext
  | cancel id =>
    obtain ⟨_, _, a', b', ha, hb, hnext⟩ := (h.cancel now id).granted
    rw [Host.step, Host.step, snd_reply, snd_reply, ha, hb]
    exact hnext
  | insert e => exact h.insert e
  | update filter values => exact h.update filter values
  | query filter =>
    change Mirrors o₀ m₀ (a.query filter).2 (b.query filter).2
    rw [query_eq, query_eq]
    exact h

theorem run (h : Mirrors o₀ m₀ a b) (steps : List (Timestamp × HostStep)) :
    Mirrors o₀ m₀ (a.run steps) (b.run steps) := by
  induction steps generalizing a b with
  | nil => exact h
  | cons first steps ih => exact ih (h.step first.1 first.2)

end Mirrors

/-- What the outlet writes is apart from the call log, which can be opened. -/
def LogApart (h : Host) : Prop :=
  ∀ path ∈ h.store.path?, ∀ other ∈ h.outlet.written, Apart h.scene.files.here path other ∧
    IsOpen path h.scene.files ∧ h.scene.files.isDirectory h.scene.files.here = true

def withSink (h : Host) (m : MemorySink) : Host := { h with outlet := .direct (.memory m) }

theorem LogApart.sameLog (hapart : h.LogApart) (hstore : b.store = h.store)
    (hfiles : b.scene.files = h.scene.files) : SameLog h b := by
  refine ⟨hstore.symm, ?_⟩
  rw [hfiles]
  by_cases hwritten : h.outlet.written = []
  · exact .inl ⟨hwritten, rfl⟩
  · refine .inr fun path hpath => ⟨rfl, fun other hother => (hapart path hpath other hother).1, ?_⟩
    obtain ⟨other, hother⟩ := List.exists_mem_of_ne_nil _ hwritten
    obtain ⟨-, hopen, hhere⟩ := hapart path hpath other hother
    exact fun _ => ⟨.rfl, hhere, hopen⟩

theorem LogApart.mirrors (hapart : h.LogApart) (hdispatcher : h.outlet.IsDispatcher)
    (m : MemorySink) : Mirrors h.outlet m h (h.withSink m) :=
  ⟨hapart.sameLog rfl rfl, fun _ => ⟨rfl, rfl, rfl⟩, rfl, rfl, m, rfl, hdispatcher, rfl,
    fun _ => rfl, fun _ _ => id⟩

/-- Behind a dispatcher, a sink in memory is after any run what it would be if it were the only
one, and so are the count and the rows. Every request of the run is granted. In a dry run no sink
sees any, and neither the files nor the log show one: they are what a sink in memory, which leaves
them alone, would have left. -/
theorem sinks_isolated (hdispatcher : h.outlet.IsDispatcher) (hapart : h.LogApart)
    (m : MemorySink) (steps : List (Timestamp × HostStep)) :
    (h.run steps).count = ((h.withSink m).run steps).count ∧
      (h.run steps).rows = ((h.withSink m).run steps).rows ∧
      (∀ now id n, ((h.run steps).notify now id n).1 = .ok ()) ∧
      (∀ now id, ((h.run steps).cancel now id).1 = .ok ()) ∧
      (h.outlet.isDry = true → (h.run steps).outlet = h.outlet ∧
        (h.run steps).scene.files = ((h.withSink m).run steps).scene.files ∧
        (h.run steps).scene.log = ((h.withSink m).run steps).scene.log) ∧
      (h.outlet.isDry = false → ∃ m', ((h.withSink m).run steps).outlet = .direct (.memory m') ∧
        ∀ i : Nat, h.outlet.memories[i]? = some m → (h.run steps).outlet.memories[i]? = some m') := by
  have hrun := (hapart.mirrors hdispatcher m).run steps
  obtain ⟨m', houtlet, hfollows⟩ := hrun.sink
  refine ⟨hrun.count, hrun.log.rows, ?_, ?_, fun hdry => ?_, ?_⟩
  · intro now id n
    obtain ⟨_, _, _, _, hgranted, -⟩ := (hrun.notify now id n).granted
    rw [hgranted]
  · intro now id
    obtain ⟨_, _, _, _, hgranted, -⟩ := (hrun.cancel now id).granted
    rw [hgranted]
  · obtain ⟨-, hfiles, htold⟩ := hrun.trace hdry
    exact ⟨hfollows.dryRun hdry, hfiles, htold⟩
  · exact fun hwet => ⟨m', houtlet, hfollows.memory hwet⟩

theorem sinks_isolated_of_three :
    let moment : Timestamp := ⟨⟨2024, 1, 2, by decide⟩, 3, 4, 5, 0, by decide⟩
    let call : Call := ⟨⟨some "tel", "555"⟩, none, moment, .incomingMissed, none, none⟩
    let host : Host := ⟨.ofFiles (.blank ["home"]), .journal "calls.jsonl",
      .dispatcher [.unavailable, .memory .empty, .journal ⟨"notices.jsonl", 0⟩] false,
      .ofSettings .standard, [.recorder, .notifier], []⟩
    let steps : List (Timestamp × HostStep) :=
      [(moment, .clear), (moment, .event ⟨call, .ringing, .disconnected⟩)]
    (host.run steps).rows = ((host.withSink .empty).run steps).rows ∧
      ∃ m, ((host.withSink .empty).run steps).outlet = .direct (.memory m) ∧
        (host.run steps).outlet.memories[0]? = some m := by
  intro moment call host steps
  have hapart : host.LogApart := by
    rintro path ⟨⟩ other hother
    obtain rfl : other = "notices.jsonl" := List.mem_singleton.mp hother
    exact ⟨by decide +kernel, .inl (by decide), by decide⟩
  obtain ⟨-, hrows, -, -, -, hmemories⟩ := sinks_isolated (h := host) trivial hapart .empty steps
  obtain ⟨m, houtlet, hsame⟩ := hmemories rfl
  exact ⟨hrows, m, houtlet, hsame 0 rfl⟩

/-- Nothing keeps the call log and the file of a sink apart: where the call log wants a directory,
the sink has put its file. And a sink can make the directory through which the call log is found. -/
theorem rows_ne_of_directory :
    let moment : Timestamp := ⟨⟨2024, 1, 2, by decide⟩, 3, 4, 5, 0, by decide⟩
    let call : Call := ⟨⟨some "tel", "555"⟩, none, moment, .incomingMissed, none, none⟩
    let missed : CallEvent := ⟨call, .ringing, .disconnected⟩
    let host (files : Files) (callLog notices : String) : Host := ⟨.ofFiles files, .journal callLog,
      .dispatcher [.memory .empty, .journal ⟨notices, 0⟩] false, .ofSettings .standard,
      [.recorder, .notifier], []⟩
    let inFile := host (.blank ["home"]) "a/calls.jsonl" "a"
    let row := Journal.line (rowFor call).toJson
    let through := host ((Files.blank ["home"]).put ["home", "calls.jsonl"] (.file row))
      "a/../calls.jsonl" "a/notices.jsonl"
    let steps : List (Timestamp × HostStep) := [(moment, .clear), (moment, .event missed)]
    (inFile.run steps).rows.length = 0 ∧ ((inFile.withSink .empty).run steps).rows.length = 1 ∧
      (through.run [(moment, .clear)]).rows.length = 1 ∧
      ((through.withSink .empty).run [(moment, .clear)]).rows.length = 0 := by
  decide +kernel

end Host

end CallNotice
