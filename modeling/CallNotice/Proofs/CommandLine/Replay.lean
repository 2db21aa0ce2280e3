import CallNotice.Proofs.CommandLine.DryRun
import CallNotice.Proofs.Events

namespace CallNotice

open Act Text CallEvent

namespace Command

variable {around : Surroundings} {s : Scene} {path text : String} {fault : Fault}

theorem run_replayEvents_of_error (settings : Settings) (asJson dryRun record : Bool)
    (htext : s.files.readText path = .ok text)
    (h : CallEvent.ofText around.clock text = .error fault) :
    (replayEvents around settings path asJson dryRun record).run s = (.error fault, s) := by
  rw [replayEvents, run_bind_of_ok (run_readFiles _ s), htext]
  dsimp only
  rw [h]
  rfl

end Command

namespace CommandLine

variable {around : Surroundings} {words : List String} {files : Files} {i : Invocation}

theorem run_replay_of_error {path text : String} {asJson dryRun record : Bool} {fault : Fault}
    (hwords : Invocation.ofWords words = .ok i) (hcommand : i.command = .replay path asJson dryRun record)
    (htext : files.readText path = .ok text)
    (h : CallEvent.ofText around.clock text = .error fault) :
    let outcome := run around words files
    outcome.files = files ∧ outcome.code = 1 ∧ outcome.output = "" := by
  have hrun : ∃ fault s, (i.execute around).run (.ofFiles files) = (.error fault, s) ∧
      s.files = files := by
    have hfiles := Settings.files_load (i.settingsPath around.home) (.ofFiles files)
    rw [Invocation.execute, run_bind]
    rcases hload : (Settings.load (i.settingsPath around.home)).run (.ofFiles files) with
      ⟨unloaded | settings, s⟩
    · rw [hload] at hfiles
      exact ⟨unloaded, s, rfl, hfiles⟩
    · rw [hload] at hfiles
      have htext' : s.files.readText path = .ok text := (congrArg (·.readText path) hfiles).trans htext
      have hreplay := Command.run_replayEvents_of_error settings asJson dryRun record htext' h
      refine ⟨fault, s, ?_, hfiles⟩
      dsimp only
      rw [hcommand, Command.execute, hreplay]
  obtain ⟨fault, s, hrun, hfiles⟩ := hrun
  rw [run_of_error hwords hrun]
  exact ⟨hfiles, rfl, rfl⟩

/-- A text is read if every line that is neither blank nor a comment is an event, and then its events
are those of its lines; otherwise the first line that is no event is named, by its number among all
lines. So two texts are read as one if the first ends with a line feed. A replay of a text that is not
read changes no file. -/
theorem replays_all_or_nothing :
    (∀ (clock : Nat → Timestamp) (text : String),
      let meant := eventLines 1 (Text.lines text)
      (∀ ls, IsLines '\n' '\r' text.toList ls ↔ Text.lines text = ls) ∧
      ((∃ events, ofText clock text = .ok events) ↔ ∀ l ∈ meant, (decode clock l).isSome) ∧
      (∀ events, ofText clock text = .ok events ↔
        meant.map (decode clock) = events.map some) ∧
      ∀ fault, ofText clock text = .error fault ↔
        ∃ l, meant.find? (fun l => (decode clock l).isNone) = some l ∧
          fault = .malformed ("Invalid event on line " ++ toString l.2)) ∧
    (∀ (clock : Nat → Timestamp) (a b : String), (∀ c ∈ a.toList.getLast?, c = '\n') →
      let later := fun m => clock (m + (Text.lines a).length)
      (∀ before behind, ofText clock a = .ok before → ofText later b = .ok behind →
        ofText clock (a ++ b) = .ok (before ++ behind)) ∧
      (∀ fault, ofText clock a = .error fault → ofText clock (a ++ b) = .error fault) ∧
      ∀ before fault, ofText clock a = .ok before → ofText later b = .error fault →
        ∃ m, fault = .malformed ("Invalid event on line " ++ toString m) ∧
          ofText clock (a ++ b) = .error
            (.malformed ("Invalid event on line " ++ toString (m + (Text.lines a).length)))) ∧
    ∀ (around : Surroundings) (words : List String) (files : Files) (i : Invocation)
      (path : String) (asJson dryRun record : Bool) (text : String) (fault : Fault),
      Invocation.ofWords words = .ok i → i.command = .replay path asJson dryRun record →
      files.readText path = .ok text → ofText around.clock text = .error fault →
      let outcome := run around words files
      outcome.files = files ∧ outcome.code = 1 ∧ outcome.output = "" := by
  refine ⟨?_, ?_, ?_⟩
  · intro clock text meant
    refine ⟨?_, exists_ofLines_ok_iff, ?_, ?_⟩
    · intro ls
      exact isLines_iff (by decide)
    · intro events
      exact ofLines_ok_iff
    · intro fault
      exact ofLines_error_iff
  · intro clock a b ha later
    refine ⟨?_, ?_, ?_⟩
    · intro before behind hbefore hbehind
      exact ofText_append_ok ha hbefore hbehind
    · intro fault h
      exact ofText_append_error ha h b
    · intro before fault hbefore hbehind
      exact ofText_append_error_behind ha hbefore hbehind
  · intro around words files i path asJson dryRun record text fault hwords hcommand htext h
    exact run_replay_of_error hwords hcommand htext h

theorem replays_all_or_nothing_missed :
    let now : Timestamp := ⟨⟨2024, 1, 2, by decide⟩, 3, 4, 5, 0, by decide⟩
    let around : Surroundings := ⟨"", fun _ => now⟩
    let missed := "\x7b\"call\":\x7b\"disconnect_cause\":\"incoming_missed\"\x7d,\"old_state\":\"ringing\",\"new_state\":\"disconnected\"\x7d"
    let text := " # one call\r\n\n" ++ missed ++ "\noops\n"
    let files := (Files.blank ["home"]).put ["home", "events.jsonl"] (.file text.toUTF8)
    let outcome := run around ["replay", "events.jsonl"] files
    ofText around.clock text = .error (.malformed "Invalid event on line 4") ∧
      outcome.files = files ∧ outcome.code = 1 := by
  intro now around missed text files outcome
  obtain ⟨hexact, -, hreplay⟩ := replays_all_or_nothing
  obtain ⟨-, -, -, herror⟩ := hexact around.clock text
  have hevents : ofText around.clock text = .error (.malformed "Invalid event on line 4") := by
    refine (herror _).mpr ⟨("oops".toList, 4), ?_, rfl⟩
    decide +kernel
  have htext : files.readText "events.jsonl" = .ok text := Files.readText_of_content? rfl
  obtain ⟨i, hi⟩ : ∃ i : Invocation, i = ⟨none, .replay "events.jsonl" false false true⟩ := ⟨_, rfl⟩
  have hwords : Invocation.ofWords ["replay", "events.jsonl"] = .ok i := by
    rw [hi]
    rfl
  have hcommand : i.command = .replay "events.jsonl" false false true := by rw [hi]
  obtain ⟨hfiles, hcode, -⟩ := hreplay around _ files i _ _ _ _ _ _ hwords hcommand htext hevents
  exact ⟨hevents, hfiles, hcode⟩

end CommandLine

end CallNotice
