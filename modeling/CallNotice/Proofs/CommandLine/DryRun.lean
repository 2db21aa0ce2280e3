import CallNotice.CommandLine.Run
import CallNotice.Proofs.CallLog.Updating
import CallNotice.Proofs.Host.Independence

namespace CallNotice

open Act Journal Arguments

namespace Invocation

theorem exists_mem_commands {words : List String} {i : Invocation} (h : ofWords words = .ok i) :
    ∃ e ∈ commands, ∃ r, i.command = e.2.2 r := by
  unfold ofWords at h
  simp only [bind, Except.bind, pure, Except.pure, throw, throwThe, MonadExceptOf.throw] at h
  split at h
  · cases h
  · rename_i found hfound
    split at h
    · cases h
    · cases hlookup : commands.lookup found.2.1 with
      | none =>
        rw [hlookup] at h
        cases h
      | some e =>
        obtain ⟨before, behind, hcommands, -⟩ := List.lookup_eq_some_iff.mp hlookup
        have hmem : (found.2.1, e) ∈ commands := by
          rw [hcommands]
          exact List.mem_append_right before List.mem_cons_self
        rw [hlookup] at h
        dsimp only at h
        split at h
        · cases h
        · rename_i r hr
          cases h
          exact ⟨_, hmem, r, rfl⟩

theorem record_of_dryRun {words : List String} {i : Invocation} (h : ofWords words = .ok i)
    {events : String} {asJson record : Bool} (hc : i.command = .replay events asJson true record) :
    record = false := by
  obtain ⟨e, he, r, hcommand⟩ := exists_mem_commands h
  rw [hc] at hcommand
  simp only [commands, List.mem_cons, List.not_mem_nil, or_false] at he
  rcases he with rfl | rfl | rfl | rfl | rfl
  · obtain ⟨-, -, hdry, rfl⟩ := Command.replay.inj hcommand
    rw [← hdry, Bool.not_true, Bool.and_false]
  all_goals cases hcommand

theorem ends_of_load {around : Surroundings} {files : Files} {settings : Settings} {s : Scene}
    {i : Invocation}
    (hload : (Settings.load (i.settingsPath around.home)).run (.ofFiles files) = (.ok settings, s)) :
    i.ends around files = i.command.ends around settings s := by
  simp only [ends, hload]

end Invocation

namespace Host

structure Rehearses (h : Host) : Prop where
  listeners : h.listeners = [.notifier]
  written : h.outlet.written = []

variable {h : Host}

theorem Rehearses.showMissed (hr : h.Rehearses) (now : Timestamp) (call : Call) :
    (h.showMissed now call).Rehearses ∧
      (h.showMissed now call).scene.files = h.scene.files ∧
      (h.showMissed now call).count = h.count + 1 := by
  have hspares := SparesLog.postNotice now (h.notifier.notice call (h.count + 1))
    (((h.setCount (h.count + 1)).tell (h.notifier.composeEvent call (h.count + 1))).tell
      (.notificationAdded call.describe (h.count + 1)))
  rw [← showMissed_eq] at hspares
  have hwritten : (((h.setCount (h.count + 1)).tell (h.notifier.composeEvent call (h.count + 1))).tell
      (.notificationAdded call.describe (h.count + 1))).outlet.written = [] := hr.written
  have hedited := hspares.edited
  rw [hwritten] at hedited
  exact ⟨⟨hspares.listeners.trans hr.listeners, hspares.outlet.written.trans hwritten⟩,
    eq_of_edited_nil hedited, hspares.count⟩

theorem Rehearses.changeState (hr : h.Rehearses) (now : Timestamp) (e : CallEvent) :
    (h.changeState now e).Rehearses ∧
      (h.changeState now e).scene.files = h.scene.files ∧
      (h.changeState now e).count = h.count + if e.isMissed then 1 else 0 := by
  have hheard : h.changeState now e = hear now e (h.tell (.stateChanged e.call.describe e.before
      e.after h.listeners.length)) .notifier := by
    rw [Host.changeState, hr.listeners]
    rfl
  have htold : (h.tell (.stateChanged e.call.describe e.before e.after
      h.listeners.length)).Rehearses := ⟨hr.listeners, hr.written⟩
  rw [hheard, hear]
  by_cases hmissed : e.isMissed = true
  · rw [if_pos hmissed, if_pos hmissed]
    exact htold.showMissed now e.call
  · rw [if_neg hmissed, if_neg hmissed]
    exact ⟨htold, rfl, (UInt32.add_zero h.count).symm⟩

theorem Rehearses.replay (hr : h.Rehearses) (now : Timestamp) (events : List CallEvent) :
    (h.replay now events).scene.files = h.scene.files ∧
      (h.replay now events).count = h.count + .ofNat (events.countP CallEvent.isMissed) := by
  induction events generalizing h with
  | nil => exact ⟨rfl, (UInt32.add_zero h.count).symm⟩
  | cons e events ih =>
    obtain ⟨hr', hfiles, hcount⟩ := hr.changeState now e
    obtain ⟨hfiles', hcount'⟩ := ih hr'
    refine ⟨hfiles'.trans hfiles, hcount'.trans ?_⟩
    rw [hcount, List.countP_cons, UInt32.ofNat_add, UInt32.add_assoc]
    congr 1
    rw [UInt32.add_comm]
    split
    · rfl
    · rfl

end Host

def ReplaySummary.ofDryRun (events : List CallEvent) : ReplaySummary :=
  ⟨events.length, .ofNat (events.countP CallEvent.isMissed), true, none⟩

namespace Workplace

def rehearsed (w : Workplace) (settings : Settings) (s : Scene) (now : Timestamp)
    (events : List CallEvent) : Host :=
  ((w.host settings true s).registerAll (listeners false)).replay now events

variable (w : Workplace) (settings : Settings) (s : Scene) (now : Timestamp)
  (events : List CallEvent)

theorem rehearsed_eq : (w.rehearsed settings s now events).scene.files = s.files ∧
    (w.rehearsed settings s now events).count = .ofNat (events.countP CallEvent.isMissed) := by
  have hr : ((w.host settings true s).registerAll (listeners false)).Rehearses := ⟨rfl, rfl⟩
  obtain ⟨hfiles, hcount⟩ := hr.replay now events
  exact ⟨hfiles, hcount.trans (UInt32.zero_add _)⟩

theorem summary_rehearsed :
    w.summary events.length true (w.rehearsed settings s now events) = .ofDryRun events := by
  rw [summary, if_pos rfl, (rehearsed_eq w settings s now events).2, ReplaySummary.ofDryRun]

end Workplace

theorem Files.readText_of_content? {files : Files} {path text : String}
    (h : files.content? path = some text.toUTF8) : files.readText path = .ok text := by
  have hread : String.fromUTF8? text.toUTF8 = some text := dif_pos text.isValidUTF8
  rw [readText, h, Option.bind_some, hread]

theorem Settings.run_load_absent {path : String} {s : Scene} (h : s.files.holds path = false) :
    (load path).run s = (.ok .standard, s.tell (.settingsAbsent path)) := by
  rw [load, run_bind_of_ok (run_readFiles _ s), h]
  rfl

theorem Settings.files_load (path : String) (s : Scene) :
    ((load path).run s).2.files = s.files := by
  rw [load, run_bind_of_ok (run_readFiles _ s)]
  cases s.files.holds path with
  | false => rfl
  | true =>
    simp only [Bool.not_true, Bool.false_eq_true, if_false]
    rw [run_bind_of_ok (run_readFiles _ s)]
    cases s.files.readText path with
    | error fault => rfl
    | ok text =>
      dsimp only
      cases (Json.parse? text).bind ofJson? <;> rfl

theorem Settings.files_of_load {path : String} {settings : Settings} {s s' : Scene}
    (h : (load path).run s = (.ok settings, s')) : s'.files = s.files := by
  have hfiles := files_load path s
  rw [h] at hfiles
  exact hfiles

theorem CallEvent.countP_isMissed (events : List CallEvent) :
    (events.countP fun e => e.before = .ringing ∧ e.after = .disconnected ∧
      e.call.cause = .incomingMissed) = events.countP isMissed := by
  apply List.countP_congr
  intro e _
  simp [isMissed, Call.isMissed, and_assoc]

theorem Rows.length_query (rows : Rows) (filter : CallLogFilter) :
    (rows.query filter).length = rows.count filter := by
  rw [query, List.length_mergeSort, count, List.countP_eq_length_filter]

namespace Command

variable (around : Surroundings) (settings : Settings) (s : Scene)

theorem run_withHost {α : Type} (dryRun : Bool) (work : Host → α × Host) :
    (withHost around settings dryRun work).run s =
      (.ok (work ((workplace around settings).host settings dryRun s)).1,
        (work ((workplace around settings).host settings dryRun s)).2.scene) := rfl

def isDryRun : Command → Bool
  | .replay _ _ dryRun _ => dryRun
  | .clear dryRun => dryRun
  | _ => false

def showSummary (asJson : Bool) (summary : ReplaySummary) : String :=
  inLines [if asJson then summary.toJson.indented else summary.describe]

theorem run_replayEvents_dryRun (path : String) (asJson : Bool) :
    (replayEvents around settings path asJson true false).run s =
      match s.files.readText path with
      | .error _ => (.error (.refused ("Failed to read " ++ path)), s)
      | .ok text =>
        match CallEvent.ofText around.clock text with
        | .error fault => (.error fault, s)
        | .ok events => (.ok (showSummary asJson (.ofDryRun events)),
            ((workplace around settings).rehearsed settings s (around.clock 0) events).scene) := by
  rw [replayEvents, run_bind_of_ok (run_readFiles _ s)]
  cases s.files.readText path with
  | error fault => rfl
  | ok text =>
    dsimp only
    cases hevents : CallEvent.ofText around.clock text with
    | error fault => rfl
    | ok events =>
      have hread : (ofExcept (Except.ok events : Except Fault (List CallEvent))).run s =
          (.ok events, s) := rfl
      have hsummary := (workplace around settings).summary_rehearsed settings s (around.clock 0) events
      rw [run_bind_of_ok hread, run_bind_of_ok (run_withHost around settings s true _)]
      dsimp only
      rw [← hsummary]
      rfl

theorem run_replay_dryRun {path text : String} {events : List CallEvent} (asJson : Bool)
    (htext : s.files.readText path = .ok text)
    (hevents : CallEvent.ofText around.clock text = .ok events) :
    (execute around settings (.replay path asJson true false)).run s =
      (.ok (showSummary asJson (.ofDryRun events)),
        ((workplace around settings).rehearsed settings s (around.clock 0) events).scene) := by
  rw [execute, run_replayEvents_dryRun, htext]
  dsimp only
  rw [hevents]

theorem run_clearMissed_dryRun :
    (clearMissed around settings true).run s = (.ok (inLines ["[DRY-RUN] Would mark " ++
      toString ((CallLogJournal.rows (workplace around settings).callLog s.files).count .newMissed) ++
      " missed calls as read and cancel the notification"]), s) := by
  rw [← Rows.length_query]
  rfl

theorem files_execute_of_isDryRun {command : Command} (hdry : command.isDryRun = true)
    (hrecord : ∀ events asJson record, command = .replay events asJson true record → record = false) :
    ((command.execute around settings).run s).2.files = s.files := by
  cases command with
  | replay path asJson dryRun record =>
    obtain rfl : dryRun = true := hdry
    obtain rfl := hrecord path asJson record rfl
    rw [execute, run_replayEvents_dryRun]
    cases s.files.readText path with
    | error fault => rfl
    | ok text =>
      dsimp only
      cases CallEvent.ofText around.clock text with
      | error fault => rfl
      | ok events => exact ((workplace around settings).rehearsed_eq settings s _ events).1
  | clear dryRun =>
    obtain rfl : dryRun = true := hdry
    rw [execute, run_clearMissed_dryRun]
  | deliver action data asJson => cases hdry
  | list missed limit asJson => cases hdry
  | addMissed number name => cases hdry

theorem ends_replay_dryRun (path : String) (asJson record : Bool) :
    (Command.replay path asJson true record).ends around settings s = true := by
  unfold ends
  dsimp only
  split <;> rfl

theorem ends_list (h : Journal.Ends (workplace around settings).callLog s.files) (missed : Bool)
    (limit : Nat) (asJson : Bool) : (Command.list missed limit asJson).ends around settings s = true :=
  decide_eq_true h

theorem ends_clear (h : Journal.Ends (workplace around settings).callLog s.files) (dryRun : Bool) :
    (Command.clear dryRun).ends around settings s = true := by
  cases dryRun with
  | true => exact decide_eq_true h
  | false => exact CallLogJournal.updateEnds_of_ends h

end Command

namespace CommandLine

variable {around : Surroundings} {words : List String} {files : Files} {i : Invocation}

theorem run_of_ok {output : String} {s : Scene} (hwords : Invocation.ofWords words = .ok i)
    (hrun : (i.execute around).run (.ofFiles files) = (.ok output, s)) :
    run around words files =
      ⟨0, output, Command.inLines s.notes, s.files, i.ends around files⟩ := by
  simp only [run, hwords, hrun]

theorem run_of_error {fault : Fault} {s : Scene} (hwords : Invocation.ofWords words = .ok i)
    (hrun : (i.execute around).run (.ofFiles files) = (.error fault, s)) :
    run around words files =
      ⟨1, "", Command.inLines (s.notes ++ [errorLine fault]), s.files, i.ends around files⟩ := by
  simp only [run, hwords, hrun]

theorem files_run_of_isDryRun (hwords : Invocation.ofWords words = .ok i)
    (hdry : i.command.isDryRun = true) : (run around words files).files = files := by
  have hload := Settings.files_load (i.settingsPath around.home) (.ofFiles files)
  have hexecute : ((i.execute around).run (.ofFiles files)).2.files = files := by
    rw [Invocation.execute, run_bind]
    rcases hrun : (Settings.load (i.settingsPath around.home)).run (.ofFiles files) with
      ⟨fault | settings, s⟩
    · rw [hrun] at hload
      exact hload
    · rw [hrun] at hload
      exact (Command.files_execute_of_isDryRun around settings s hdry fun _ _ _ =>
        Invocation.record_of_dryRun hwords).trans hload
  rcases hrun : (i.execute around).run (.ofFiles files) with ⟨fault | output, s⟩
  · rw [run_of_error hwords hrun]
    rw [hrun] at hexecute
    exact hexecute
  · rw [run_of_ok hwords hrun]
    rw [hrun] at hexecute
    exact hexecute

theorem run_of_execute {settings : Settings} {s s' : Scene} {output : String}
    (hwords : Invocation.ofWords words = .ok i)
    (hload : (Settings.load (i.settingsPath around.home)).run (.ofFiles files) = (.ok settings, s))
    (hexecute : (i.command.execute around settings).run s = (.ok output, s')) :
    run around words files =
      ⟨0, output, Command.inLines s'.notes, s'.files, i.command.ends around settings s⟩ := by
  have hrun : (i.execute around).run (.ofFiles files) = (.ok output, s') := by
    rw [Invocation.execute, run_bind_of_ok hload, hexecute]
  rw [run_of_ok hwords hrun, Invocation.ends_of_load hload]

theorem output_run {settings : Settings} {s s' : Scene} {output : String}
    (hwords : Invocation.ofWords words = .ok i)
    (hload : (Settings.load (i.settingsPath around.home)).run (.ofFiles files) = (.ok settings, s))
    (hexecute : (i.command.execute around settings).run s = (.ok output, s'))
    (hends : i.command.ends around settings s = true) :
    (run around words files).ends = true ∧ (run around words files).code = 0 ∧
      (run around words files).output = output := by
  rw [run_of_execute hwords hload hexecute]
  exact ⟨hends, rfl, rfl⟩

/-- A dry run changes no file. A dry replay tells how many of its events are missed calls, and of no
notification. A dry clearing tells the number of rows that the clearing, on the same files, marks as
read unless its update is refused, which marks none. That there is a call log to read is asked: in
the place of its file stands no directory. -/
theorem dry_runs_predict (around : Surroundings) (words : List String) (files : Files)
    (i : Invocation) (hwords : Invocation.ofWords words = .ok i)
    (hdry : i.command.isDryRun = true) :
    let outcome := run around words files
    outcome.files = files ∧
    ∀ settings s,
      (Settings.load (i.settingsPath around.home)).run (.ofFiles files) = (.ok settings, s) →
      (∀ path asJson record text events, i.command = .replay path asJson true record →
        files.readText path = .ok text → CallEvent.ofText around.clock text = .ok events →
        let missed := events.countP fun e =>
          e.before = .ringing ∧ e.after = .disconnected ∧ e.call.cause = .incomingMissed
        outcome.ends = true ∧ outcome.code = 0 ∧ outcome.output = Command.showSummary asJson
          ⟨events.length, .ofNat missed, true, none⟩) ∧
      (i.command = .clear true →
        let w := Command.workplace around settings
        files.opened? w.callLog ≠ some .directory →
        let rows := CallLogJournal.rows w.callLog files
        (outcome.ends = true ∧ outcome.code = 0 ∧
          outcome.output = Command.inLines ["[DRY-RUN] Would mark " ++
            toString (rows.count .newMissed) ++ " missed calls as read and cancel the notification"]) ∧
        (Command.clear false).ends around settings s = true ∧
        (Command.execute around settings (.clear false)).run s =
          (.ok (Command.inLines ["Missed calls cleared"]),
            ((w.host settings false s).clear (around.clock 0)).scene) ∧
        match (w.host settings false s).update .newMissed .markRead with
        | (.ok updated, h) => updated = rows.count .newMissed ∧ h.rows = rows.update .newMissed .markRead
        | (.error _, h) => h.rows = rows) := by
  refine ⟨files_run_of_isDryRun hwords hdry, fun settings s hload => ?_⟩
  have hfiles : s.files = files := Settings.files_of_load hload
  constructor
  · intro path asJson record text events hcommand htext hevents missed
    obtain rfl := Invocation.record_of_dryRun hwords hcommand
    rw [← hfiles] at htext
    have hexecute := Command.run_replay_dryRun around settings s asJson htext hevents
    have hends := Command.ends_replay_dryRun around settings s path asJson false
    rw [← hcommand] at hexecute hends
    have hcount : missed = events.countP CallEvent.isMissed := CallEvent.countP_isMissed events
    rw [hcount]
    exact output_run hwords hload hexecute hends
  · intro hcommand w hplace rows
    have hrows : CallLogJournal.rows w.callLog s.files = rows := congrArg _ hfiles
    have hends : Journal.Ends w.callLog s.files := by
      rw [hfiles]
      exact Journal.ends_iff.mpr hplace
    refine ⟨?_, Command.ends_clear around settings s hends false, rfl, ?_⟩
    · have hexecute := Command.run_clearMissed_dryRun around settings s
      rw [hrows] at hexecute
      have hclear : (i.command.execute around settings).run s =
          (Command.clearMissed around settings true).run s := by
        rw [hcommand, Command.execute]
      have hdryEnds := Command.ends_clear around settings s hends true
      rw [← hcommand] at hdryEnds
      exact output_run hwords hload (hclear.trans hexecute) hdryEnds
    · have hhost : (w.host settings false s).rows = rows := hrows
      rw [← hhost]
      rcases hupdate : (w.host settings false s).update .newMissed .markRead with ⟨fault | k, h⟩
      · exact Host.rows_of_update_error hupdate
      · exact Host.rows_of_update_ok hupdate

theorem dry_runs_predict_one :
    let now : Timestamp := ⟨⟨2024, 1, 2, by decide⟩, 3, 4, 5, 0, by decide⟩
    let around : Surroundings := ⟨"", fun _ => now⟩
    let missed := "\x7b\"call\":\x7b\"disconnect_cause\":\"incoming_missed\"\x7d,\"old_state\":\"ringing\",\"new_state\":\"disconnected\"\x7d"
    let row : CallLogEntry := { CallLogEntry.missed "555" none now with id := 1 }
    let files := ((((Files.blank ["home"]).put ["home", ".config"] .directory).put
      ["home", ".config", "missed-call-notifier"] .directory).put
      ["home", ".config", "missed-call-notifier", "call_log.jsonl"]
      (.file (Journal.content [row.toJson]))).put
      ["home", "events.jsonl"] (.file missed.toUTF8)
    let replayed := run around ["replay", "events.jsonl", "--dry-run"] files
    let cleared := run around ["clear", "--dry-run"] files
    (replayed.files = files ∧ replayed.output = "Replayed 1 events, 1 missed\n[DRY-RUN] Nothing posted\n") ∧
      cleared.files = files ∧
      cleared.output = "[DRY-RUN] Would mark 1 missed calls as read and cancel the notification\n" := by
  intro now around missed row files replayed cleared
  have habsent : files.holds (Settings.defaultPath "") = false := by
    decide +kernel
  have hload (i : Invocation) (hi : i.settings = none) :
      (Settings.load (i.settingsPath around.home)).run (.ofFiles files) = (.ok .standard,
        (Scene.ofFiles files).tell (.settingsAbsent (i.settingsPath around.home))) := by
    rw [Invocation.settingsPath, hi, Option.getD_none]
    exact Settings.run_load_absent habsent
  have htext : files.readText "events.jsonl" = .ok missed := Files.readText_of_content? rfl
  have hevents : CallEvent.ofText around.clock missed = .ok [⟨⟨.none, none, now, .incomingMissed,
      none, none⟩, .ringing, .disconnected⟩] := by
    decide +kernel
  have hpath : (Command.workplace around .standard).callLog =
      ".config/missed-call-notifier/call_log.jsonl" := by
    decide +kernel
  have hrows : CallLogJournal.rows (Command.workplace around .standard).callLog files = [row] := by
    rw [hpath]
    exact CallLogJournal.rows_of_content rfl
  have hplace : files.opened? (Command.workplace around .standard).callLog ≠ some .directory := by
    rw [hpath]
    exact nofun
  clear_value files
  constructor
  · obtain ⟨i, hi⟩ : ∃ i : Invocation, i = ⟨none, .replay "events.jsonl" false true false⟩ := ⟨_, rfl⟩
    have hwords : Invocation.ofWords ["replay", "events.jsonl", "--dry-run"] = .ok i := by
      rw [hi]
      rfl
    have hcommand : i.command = .replay "events.jsonl" false true false := by rw [hi]
    obtain ⟨hfiles, hrest⟩ := dry_runs_predict around _ files i hwords (by rw [hcommand]; rfl)
    obtain ⟨hreplayed, -⟩ := hrest _ _ (hload i (by rw [hi]))
    obtain ⟨-, -, houtput⟩ := hreplayed _ _ _ _ _ hcommand htext hevents
    exact ⟨hfiles, houtput.trans (by decide +kernel)⟩
  · obtain ⟨i, hi⟩ : ∃ i : Invocation, i = ⟨none, .clear true⟩ := ⟨_, rfl⟩
    have hwords : Invocation.ofWords ["clear", "--dry-run"] = .ok i := by
      rw [hi]
      rfl
    have hcommand : i.command = .clear true := by rw [hi]
    obtain ⟨hfiles, hrest⟩ := dry_runs_predict around _ files i hwords (by rw [hcommand]; rfl)
    obtain ⟨-, hcleared⟩ := hrest _ _ (hload i (by rw [hi]))
    obtain ⟨⟨-, -, houtput⟩, -⟩ := hcleared hcommand hplace
    rw [hrows] at houtput
    exact ⟨hfiles, houtput.trans (by decide +kernel)⟩

/-- The dry run does not see that the lock cannot be taken. Where a directory stands in the place of
the call log, it tells nothing at all, and the clearing does not get as far as to withdraw anything. -/
theorem dry_clear_mispredicts :
    let now : Timestamp := ⟨⟨2024, 1, 2, by decide⟩, 3, 4, 5, 0, by decide⟩
    let around : Surroundings := ⟨"", fun _ => now⟩
    let row : CallLogEntry := { CallLogEntry.missed "555" none now with id := 1 }
    let home := ((Files.blank ["home"]).put ["home", ".config"] .directory).put
      ["home", ".config", "missed-call-notifier"] .directory
    let locked := (home.put ["home", ".config", "missed-call-notifier", "call_log.jsonl"]
      (.file (Journal.content [row.toJson]))).put
      ["home", ".config", "missed-call-notifier", "call_log.jsonl.lock"] .directory
    let w := Command.workplace around .standard
    let clearing := (w.host .standard false (.ofFiles locked)).update .newMissed .markRead
    let taken := home.put ["home", ".config", "missed-call-notifier", "call_log.jsonl"] .directory
    ((run around ["clear", "--dry-run"] locked).output =
        "[DRY-RUN] Would mark 1 missed calls as read and cancel the notification\n" ∧
      clearing.1 = .error Files.refusal ∧ clearing.2.rows = [row]) ∧
    (run around ["clear", "--dry-run"] taken).ends = false ∧
      (run around ["clear"] taken).ends = false := by
  intro now around row home locked w clearing taken
  constructor
  · have hpath : w.callLog = ".config/missed-call-notifier/call_log.jsonl" := by
      decide +kernel
    have hrows : CallLogJournal.rows w.callLog locked = [row] := by
      rw [hpath]
      exact CallLogJournal.rows_of_content rfl
    have hrefused : clearing = (.error Files.refusal, w.host .standard false (.ofFiles locked)) := by
      decide +kernel
    have habsent : locked.holds (Settings.defaultPath "") = false := by
      decide +kernel
    clear_value locked
    obtain ⟨i, hi⟩ : ∃ i : Invocation, i = ⟨none, .clear true⟩ := ⟨_, rfl⟩
    have hwords : Invocation.ofWords ["clear", "--dry-run"] = .ok i := by
      rw [hi]
      rfl
    have hload : (Settings.load (i.settingsPath around.home)).run (.ofFiles locked) = (.ok .standard,
        (Scene.ofFiles locked).tell (.settingsAbsent (i.settingsPath around.home))) := by
      rw [hi, Invocation.settingsPath, Option.getD_none]
      exact Settings.run_load_absent habsent
    have hexecute := Command.run_clearMissed_dryRun around .standard
      ((Scene.ofFiles locked).tell (.settingsAbsent (i.settingsPath around.home)))
    have hcommand : i.command.execute around .standard =
        Command.clearMissed around .standard true := by
      rw [hi, Command.execute]
    rw [← hcommand] at hexecute
    have hrun := run_of_execute hwords hload hexecute
    refine ⟨?_, ?_, ?_⟩
    · rw [hrun]
      change Command.inLines ["[DRY-RUN] Would mark " ++
        toString ((CallLogJournal.rows w.callLog locked).count .newMissed) ++ _] = _
      rw [hrows]
      decide +kernel
    · rw [hrefused]
    · rw [hrefused]
      exact hrows
  · constructor <;> decide +kernel

end CommandLine

end CallNotice
