import CallNotice.Proofs.CallLog.Description
import CallNotice.Proofs.CommandLine.Listing
import CallNotice.Proofs.Text.Splitting

namespace CallNotice

namespace Command

open Act

variable {texts : List String}

theorem toList_inLines (texts : List String) :
    (inLines texts).toList = texts.flatMap fun text => text.toList ++ ['\n'] := by
  rw [inLines, String.toList_join, List.flatMap_map]
  congr 1
  funext text
  exact String.toList_append

theorem getLast?_inLines (texts : List String) : ∀ c ∈ (inLines texts).toList.getLast?, c = '\n' := by
  rw [toList_inLines]
  rcases List.eq_nil_or_concat texts with rfl | ⟨texts, text, rfl⟩
  · exact nofun
  · rw [List.concat_eq_append, List.flatMap_append, List.flatMap_singleton, ← List.append_assoc,
      List.getLast?_concat]
    rintro c ⟨⟩
    rfl

theorem length_lines_inLines (texts : List String) :
    (Text.lines (inLines texts)).length =
      texts.length + (texts.flatMap String.toList).count '\n' := by
  rw [Text.lines, Text.length_linesBy (getLast?_inLines texts), toList_inLines]
  induction texts with
  | nil => rfl
  | cons text texts ih =>
    rw [List.flatMap_cons, List.count_append, List.count_append, List.count_singleton_self, ih,
      List.length_cons, List.flatMap_cons, List.count_append]
    omega

theorem lines_inLines (htexts : ∀ text ∈ texts, '\n' ∉ text.toList ∧ text.toList.getLast? ≠ some '\r') :
    Text.lines (inLines texts) = texts.map String.toList := by
  rw [Text.lines, toList_inLines]
  induction texts with
  | nil => rfl
  | cons text texts ih =>
    obtain ⟨hfeed, hret⟩ := htexts text List.mem_cons_self
    rw [List.flatMap_cons, List.append_assoc, List.singleton_append, Text.linesBy_cons hfeed,
      Text.withoutLast_of_ne hret, ih fun t ht => htexts t (List.mem_cons_of_mem text ht),
      List.map_cons]

theorem count_flatMap_describe (rows : Rows) :
    (rows.flatMap fun row => row.describe.toList).count '\n' =
      (rows.flatMap fun row => row.caller.toList).count '\n' := by
  induction rows with
  | nil => rw [List.flatMap_nil, List.flatMap_nil]
  | cons row rows ih =>
    rw [List.flatMap_cons, List.flatMap_cons, List.count_append, List.count_append,
      row.count_describe, ih]

theorem length_lines_describe (rows : Rows) :
    (Text.lines (inLines (rows.map CallLogEntry.describe))).length =
      rows.length + (rows.flatMap fun row => row.caller.toList).count '\n' := by
  rw [length_lines_inLines, List.length_map, List.flatMap_map, count_flatMap_describe]

theorem length_lines_describe_eq_iff {rows : Rows} :
    (Text.lines (inLines (rows.map CallLogEntry.describe))).length = rows.length ↔
      ∀ row ∈ rows, '\n' ∉ row.caller.toList := by
  rw [length_lines_describe, Nat.add_eq_left, List.count_eq_zero, List.mem_flatMap]
  simp only [not_exists, not_and]

theorem lines_describe {rows : Rows} (h : ∀ row ∈ rows, '\n' ∉ row.caller.toList) :
    Text.lines (inLines (rows.map CallLogEntry.describe)) =
      rows.map fun row => row.describe.toList := by
  rw [lines_inLines, List.map_map]
  · rfl
  · rw [List.forall_mem_map]
    intro row hrow
    exact ⟨mt row.mem_describe_iff.mp (h row hrow), row.getLast?_describe⟩

variable (around : Surroundings) (settings : Settings) (s : Scene)

def shownRows (missed : Bool) (limit : Nat) : Rows :=
  ((CallLogJournal.rows (workplace around settings).callLog s.files).query
    (if missed then .newMissed else .all)).take limit

theorem run_listRows_plain (missed : Bool) (limit : Nat) :
    (listRows around settings missed limit false).run s =
      (.ok (inLines (if shownRows around settings s missed limit = [] then ["Call log is empty"]
        else (shownRows around settings s missed limit).map CallLogEntry.describe)), s) := by
  rw [listRows, run_bind_of_ok (run_readFiles _ s)]
  rfl

end Command

namespace CommandLine

open Command

/-- A row is shown on one line exactly if there is no line feed in its caller, and a listing has as
many lines as rows exactly if that is so for all that it shows. It comes to its end unless a directory
is read. -/
theorem one_line_per_row_iff {around : Surroundings} {words : List String} {files : Files}
    {i : Invocation} {settings : Settings} {s : Scene} {missed : Bool} {limit : Nat}
    (hwords : Invocation.ofWords words = .ok i) (hcommand : i.command = .list missed limit false)
    (hload : (Settings.load (i.settingsPath around.home)).run (.ofFiles files) = (.ok settings, s)) :
    let stored := CallLogJournal.rows (workplace around settings).callLog files
    let filter := if missed then .newMissed else .all
    let outcome := run around words files
    (∀ e : CallLogEntry, '\n' ∈ e.describe.toList ↔ '\n' ∈ (e.name.getD e.number).toList) ∧
    (limit < UInt64.size → Invocation.ofWords ("log" :: (if missed then ["--missed"] else []) ++
      ["--limit", toString limit]) = .ok ⟨none, .list missed limit false⟩) ∧
    (files.opened? (workplace around settings).callLog ≠ some .directory → outcome.ends = true) ∧
    outcome.code = 0 ∧ outcome.files = files ∧
    ∃ found, Rows.IsFound filter stored found ∧
      (found.take limit ≠ [] →
        (Text.lines outcome.output).length = (found.take limit).length +
          ((found.take limit).flatMap fun row => (row.name.getD row.number).toList).count '\n' ∧
        ((Text.lines outcome.output).length = (found.take limit).length ↔
          ∀ row ∈ found.take limit, '\n' ∉ (row.name.getD row.number).toList) ∧
        ((∀ row ∈ found.take limit, '\n' ∉ (row.name.getD row.number).toList) →
          Text.lines outcome.output = (found.take limit).map fun row => row.describe.toList)) := by
  intro stored filter outcome
  have hfiles : s.files = files := Settings.files_of_load hload
  have hexecute : i.command.execute around settings =
      listRows around settings missed limit false := by
    rw [hcommand, Command.execute]
  have hlisted := run_listRows_plain around settings s missed limit
  rw [← hexecute] at hlisted
  have hrun := run_of_execute hwords hload hlisted
  have hshown : shownRows around settings s missed limit = (stored.query filter).take limit := by
    rw [shownRows, hfiles]
  refine ⟨fun e => e.mem_describe_iff, Invocation.ofWords_plain_listing missed, fun hplace => ?_,
    congrArg Outcome.code hrun, (congrArg Outcome.files hrun).trans hfiles, stored.query filter,
    Rows.isFound_query _ _, fun hne => ?_⟩
  · rw [congrArg Outcome.ends hrun, hcommand]
    refine Command.ends_list around settings s ?_ missed limit false
    rw [hfiles]
    exact Journal.ends_iff.mpr hplace
  have houtput : outcome.output =
      inLines (((stored.query filter).take limit).map CallLogEntry.describe) := by
    refine (congrArg Outcome.output hrun).trans ?_
    rw [hshown, if_neg hne]
  rw [houtput]
  exact ⟨length_lines_describe _, length_lines_describe_eq_iff, lines_describe⟩

theorem one_line_per_row_iff_of_two_lines :
    let moment : Timestamp := ⟨⟨2024, 1, 2, by decide⟩, 3, 4, 5, 0, by decide⟩
    let around : Surroundings := ⟨"", fun _ => moment⟩
    let row : CallLogEntry := ⟨1, "555", some "Ann\nLee", .missed, moment, 0, true, false⟩
    let files := (((Files.blank ["home"]).put ["home", ".config"] .directory).put
      ["home", ".config", "missed-call-notifier"] .directory).put
      ["home", ".config", "missed-call-notifier", "call_log.jsonl"]
      (.file (Journal.content [row.toJson]))
    '\n' ∈ row.describe.toList ∧
      (Text.lines (run around ["log", "--limit", "5"] files).output).length = 2 := by
  intro moment around row files
  have habsent : files.holds (Settings.defaultPath "") = false := by
    decide +kernel
  have hpath : (workplace around .standard).callLog =
      ".config/missed-call-notifier/call_log.jsonl" := by
    decide +kernel
  have hrows : CallLogJournal.rows (workplace around .standard).callLog files = [row] := by
    have hcontent : files.content? ".config/missed-call-notifier/call_log.jsonl" =
        some (Journal.content ([row].map CallLogEntry.toJson)) := rfl
    rw [hpath]
    exact CallLogJournal.rows_of_content hcontent
  clear_value files
  obtain ⟨i, hi⟩ : ∃ i : Invocation, i = ⟨none, .list false 5 false⟩ := ⟨_, rfl⟩
  have hread : Invocation.ofWords ["log", "--limit", "5"] = .ok i := by
    have hlimit : 5 < UInt64.size := by decide
    have hplain := Invocation.ofWords_plain_listing false hlimit
    rw [hi]
    exact hplain
  have hcommand : i.command = .list false 5 false := by rw [hi]
  have hload : (Settings.load (i.settingsPath around.home)).run (.ofFiles files) = (.ok .standard,
      (Scene.ofFiles files).tell (.settingsAbsent (i.settingsPath around.home))) := by
    rw [hi, Invocation.settingsPath, Option.getD_none]
    exact Settings.run_load_absent habsent
  obtain ⟨hdescribe, -, -, -, -, found, hfound, hlines⟩ :=
    one_line_per_row_iff hread hcommand hload
  have hquery : found = [row] := by
    rw [Rows.isFound_iff.mp hfound, hrows]
    simp [Rows.query, CallLogFilter.all, CallLogFilter.accepts]
  refine ⟨(hdescribe row).mpr (by decide), ?_⟩
  rw [hquery] at hlines
  have hcount : ([row].take 5).length +
      (([row].take 5).flatMap fun row => (row.name.getD row.number).toList).count '\n' = 2 := by
    decide
  exact (hlines (List.cons_ne_nil row [])).1.trans hcount

end CommandLine

end CallNotice
