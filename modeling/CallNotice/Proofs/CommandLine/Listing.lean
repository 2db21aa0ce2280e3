import CallNotice.Proofs.CallLog.Order
import CallNotice.Proofs.CommandLine.DryRun

namespace CallNotice

open Act Arguments

namespace Arguments

theorem toList_toString (n : Nat) : (toString n).toList = Nat.toDigits 10 n := Nat.toList_repr

theorem digits_toString (n : Nat) :
    ∃ c cs, (toString n).toList = c :: cs ∧ ∀ d ∈ c :: cs, Json.Lexer.isDigit d = true := by
  rw [toList_toString]
  obtain ⟨c, cs, hcs⟩ := List.exists_cons_of_ne_nil (Nat.toDigits_ne_nil (b := 10) (n := n))
  refine ⟨c, cs, hcs, fun d hd => ?_⟩
  rw [← hcs] at hd
  exact Json.Lexer.isDigit_of_mem_toDigits hd

theorem size?_toString {n : Nat} (h : n < UInt64.size) : size? (toString n) = some n := by
  obtain ⟨c, cs, hcs, hdigits⟩ := digits_toString n
  have hplus : c ≠ '+' := Json.Lexer.ne_of_isDigit (hdigits c List.mem_cons_self) (by decide)
  have hvalue : (c :: cs).foldl (fun n c => n * 10 + (c.toNat - '0'.toNat)) 0 = n := by
    have hread := Nat.ofDigitChars_ten_toDigits (n := n)
    rw [← toList_toString, hcs, Nat.ofDigitChars_eq_foldl] at hread
    simpa only [Nat.mul_comm] using hread
  have hall : (c :: cs).all (fun c => '0' ≤ c && c ≤ '9') = true := by
    rw [List.all_eq_true]
    exact hdigits
  rw [size?, hcs]
  split
  · rename_i rest heq
    exact absurd (List.head_eq_of_cons_eq heq) hplus
  · rw [if_pos ⟨List.cons_ne_nil c cs, hall⟩, hvalue, if_pos h]

theorem isOption_toString (n : Nat) : isOption (toString n).toList = false := by
  obtain ⟨c, cs, hcs, hdigits⟩ := digits_toString n
  have hminus : c ≠ '-' := Json.Lexer.ne_of_isDigit (hdigits c List.mem_cons_self) (by decide)
  rw [hcs, isOption]
  rintro _ _ ⟨⟩
  exact hminus rfl

end Arguments

namespace Invocation

def listing (missed : Bool) (limit : Nat) : List String :=
  ["log", "--json"] ++ (if missed then ["--missed"] else []) ++ ["--limit", toString limit]

theorem readWord_pending (shape : Shape) (r : Reading) {option : OptionShape} {kind : ValueKind}
    {word : String} (hliteral : r.literal = false) (hpending : r.pending = some option)
    (hkind : option.kind = .value kind) (hword : isOption word.toList = false)
    (hfits : kind.fits word = true) (hnew : option.long ∉ r.values.map Prod.fst) :
    readWord shape r word =
      .ok { r with values := r.values ++ [(option.long, word)], pending := none } := by
  have hcontains : (r.values.map Prod.fst).contains option.long = false := by
    rw [Bool.eq_false_iff, ne_eq, List.contains_iff_mem]
    exact hnew
  simp only [readWord, hliteral, hpending, hword, setValue, hkind, hfits, hcontains]
  rfl

def listShape : Shape :=
  shape [flag "missed", ⟨"limit", some 'l', .value .size⟩, flag "json"] []

def listFlags (missed : Bool) : List String := "json" :: if missed then ["missed"] else []

section Limit

variable {words flags : List String} {limit : Nat} (h : limit < UInt64.size)
  (hflags : (words ++ ["--limit"]).foldlM (readWord listShape) .empty =
    .ok ⟨flags, [], [], some ⟨"limit", some 'l', .value .size⟩, false⟩)

include h hflags

theorem read_limit : read listShape (words ++ ["--limit", toString limit]) =
    .ok ⟨flags, [("limit", toString limit)], [], none, false⟩ := by
  have hfits : ValueKind.size.fits (toString limit) = true := by
    rw [ValueKind.fits, size?_toString h]
    rfl
  have hlast := readWord_pending listShape ⟨flags, [], [],
    some ⟨"limit", some 'l', .value .size⟩, false⟩ rfl rfl rfl (isOption_toString limit) hfits
    List.not_mem_nil
  unfold Arguments.read
  rw [List.append_cons, List.foldlM_append, hflags]
  change Except.bind (Except.bind (readWord listShape _ _) _) _ = _
  rw [hlast]
  rfl

theorem ofWords_limit : ofWords ("log" :: (words ++ ["--limit", toString limit])) =
    .ok ⟨none, .list (flags.contains "missed") limit (flags.contains "json")⟩ := by
  have hfirst : readUntilOperand mainShape .empty
      ("log" :: (words ++ ["--limit", toString limit])) =
        .ok (.empty, "log", words ++ ["--limit", toString limit]) := rfl
  have hlookup : commands.lookup "log" = some (listShape, fun r => .list (r.hasFlag "missed")
      (((r.value? "limit").bind size?).getD 20) (r.hasFlag "json")) := rfl
  unfold ofWords
  rw [hfirst]
  simp only [bind, Except.bind, pure, Except.pure, hlookup, read_limit h hflags]
  change Except.ok (Invocation.mk none (.list (flags.contains "missed")
    ((size? (toString limit)).getD 20) (flags.contains "json"))) = _
  rw [size?_toString h, Option.getD_some]

end Limit

theorem ofWords_listing (missed : Bool) {limit : Nat} (h : limit < UInt64.size) :
    ofWords (listing missed limit) = .ok ⟨none, .list missed limit true⟩ := by
  have hflags : (["--json"] ++ (if missed then ["--missed"] else []) ++ ["--limit"]).foldlM
      (readWord listShape) .empty = .ok ⟨listFlags missed, [],
        [], some ⟨"limit", some 'l', .value .size⟩, false⟩ := by
    cases missed <;> rfl
  have hlisting := ofWords_limit h hflags
  cases missed <;> exact hlisting

theorem ofWords_plain_listing (missed : Bool) {limit : Nat} (h : limit < UInt64.size) :
    ofWords ("log" :: (if missed then ["--missed"] else []) ++ ["--limit", toString limit]) =
      .ok ⟨none, .list missed limit false⟩ := by
  have hflags : ((if missed then ["--missed"] else []) ++ ["--limit"]).foldlM
      (readWord listShape) .empty = .ok ⟨if missed then ["missed"] else [], [],
        [], some ⟨"limit", some 'l', .value .size⟩, false⟩ := by
    cases missed <;> rfl
  have hlisting := ofWords_limit h hflags
  cases missed <;> exact hlisting

end Invocation

namespace Command

variable (around : Surroundings) (settings : Settings) (s : Scene)

theorem run_listRows_json (missed : Bool) (limit : Nat) :
    (listRows around settings missed limit true).run s = (.ok ((Json.arr
      ((((CallLogJournal.rows (workplace around settings).callLog s.files).query
        (if missed then .newMissed else .all)).take limit).map CallLogEntry.toJson)).indented ++ "\n"),
      s) := by
  rw [listRows, run_bind_of_ok (run_readFiles _ s)]
  simp only [if_true, inLines, List.map_cons, List.map_nil]
  rfl

end Command

namespace CommandLine

/-- Both stores answer a query with the rows that it is about, the latest first and rows of one
moment in the order in which they are stored; a journal stores what was written to it. The listing
as JSON is the beginning of the answer, for every number of rows that can be asked for, and it comes
to its end unless a directory is read. -/
theorem lists_latest_first :
    (∀ (store : CallLogStore) filter s, store ≠ .unavailable →
      ∃ found, (store.query filter).run s = (.ok found, s) ∧
        Rows.IsFound filter (store.rows s.files) found) ∧
    (∀ path files rows, files.content? path = some (Journal.content (rows.map CallLogEntry.toJson)) →
      (CallLogStore.journal path).rows files = rows) ∧
    (∀ missed limit, limit < UInt64.size →
      Invocation.ofWords (["log", "--json"] ++ (if missed then ["--missed"] else []) ++
        ["--limit", toString limit]) = .ok ⟨none, .list missed limit true⟩) ∧
    ∀ around words files i settings s missed limit, Invocation.ofWords words = .ok i →
      i.command = .list missed limit true →
      (Settings.load (i.settingsPath around.home)).run (.ofFiles files) = (.ok settings, s) →
      let stored := CallLogJournal.rows (Command.workplace around settings).callLog files
      let filter := if missed then .newMissed else .all
      let outcome := run around words files
      (files.opened? (Command.workplace around settings).callLog ≠ some .directory →
        outcome.ends = true) ∧
      outcome.code = 0 ∧ outcome.files = files ∧
        ∃ found items, Rows.IsFound filter stored found ∧
          Json.parse? outcome.output = some (.arr items) ∧
          items.mapM CallLogEntry.ofJson? = some (found.take limit) ∧
          (found.take limit).length = min limit (stored.count filter) := by
  refine ⟨?_, ?_, fun missed limit => Invocation.ofWords_listing missed, ?_⟩
  · intro store filter s hstore
    exact ⟨_, CallLogStore.run_query hstore filter s, Rows.isFound_query _ _⟩
  · intro path files rows hcontent
    exact CallLogJournal.rows_of_content hcontent
  · intro around words files i settings s missed limit hwords hcommand hload stored filter outcome
    have hfiles : s.files = files := Settings.files_of_load hload
    have hexecute : i.command.execute around settings =
        Command.listRows around settings missed limit true := by
      rw [hcommand, Command.execute]
    have hlisted := Command.run_listRows_json around settings s missed limit
    rw [← hexecute, hfiles] at hlisted
    have hrun := run_of_execute hwords hload hlisted
    refine ⟨fun hplace => ?_, congrArg Outcome.code hrun, (congrArg Outcome.files hrun).trans hfiles,
      stored.query filter, _, Rows.isFound_query _ _, ?_,
      Json.list?_map fun row _ => row.ofJson?_toJson, ?_⟩
    · rw [congrArg Outcome.ends hrun, hcommand]
      refine Command.ends_list around settings s ?_ missed limit true
      rw [hfiles]
      exact Journal.ends_iff.mpr hplace
    · rw [congrArg Outcome.output hrun]
      exact (Json.parse?_append_space _ (by decide)).trans (Json.parse?_indented _)
    · rw [List.length_take, Rows.length_query]

theorem lists_latest_first_of_leap_second :
    let second : Timestamp := ⟨⟨2016, 12, 31, by decide⟩, 23, 59, 59, 0, by decide⟩
    let leap : Timestamp := ⟨⟨2016, 12, 31, by decide⟩, 23, 59, 60, 0, by decide⟩
    let around : Surroundings := ⟨"", fun _ => leap⟩
    let row (id : UInt64) (moment : Timestamp) : CallLogEntry :=
      ⟨id, "555", none, .missed, moment, 0, true, false⟩
    let files := (((Files.blank ["home"]).put ["home", ".config"] .directory).put
      ["home", ".config", "missed-call-notifier"] .directory).put
      ["home", ".config", "missed-call-notifier", "call_log.jsonl"]
      (.file (Journal.content ([row 1 second, row 2 leap, row 3 leap].map CallLogEntry.toJson)))
    let listed := run around ["log", "--json", "--missed", "--limit", "2"] files
    ∃ items, Json.parse? listed.output = some (.arr items) ∧
      items.mapM CallLogEntry.ofJson? = some [row 2 leap, row 3 leap] := by
  intro second leap around row files listed
  have habsent : files.holds (Settings.defaultPath "") = false := by
    decide +kernel
  have hpath : (Command.workplace around .standard).callLog =
      ".config/missed-call-notifier/call_log.jsonl" := by
    decide +kernel
  obtain ⟨-, hstored, hwords, hlists⟩ := lists_latest_first
  have hrows : CallLogJournal.rows (Command.workplace around .standard).callLog files =
      [row 1 second, row 2 leap, row 3 leap] := by
    rw [hpath]
    exact hstored _ _ _ rfl
  clear_value files
  obtain ⟨i, hi⟩ : ∃ i : Invocation, i = ⟨none, .list true 2 true⟩ := ⟨_, rfl⟩
  have hread : Invocation.ofWords ["log", "--json", "--missed", "--limit", "2"] = .ok i := by
    rw [hi]
    exact hwords true 2 (by decide)
  have hcommand : i.command = .list true 2 true := by rw [hi]
  have hload : (Settings.load (i.settingsPath around.home)).run (.ofFiles files) = (.ok .standard,
      (Scene.ofFiles files).tell (.settingsAbsent (i.settingsPath around.home))) := by
    rw [hi, Invocation.settingsPath, Option.getD_none]
    exact Settings.run_load_absent habsent
  obtain ⟨-, -, -, found, items, hfound, hparse, hitems, -⟩ :=
    hlists around _ files i _ _ true 2 hread hcommand hload
  refine ⟨items, hparse, ?_⟩
  rw [hitems, Rows.isFound_iff.mp hfound, hrows]
  simp [Rows.query, CallLogFilter.newMissed, CallLogFilter.accepts, List.mergeSort,
    List.MergeSort.Internal.splitInTwo, Timestamp.notAfter, Timestamp.key, row, second, leap]

end CommandLine

end CallNotice
