import CallNotice.CallLog.Journal
import CallNotice.Notification.Journal
import CallNotice.Proofs.CallLog.Entry
import CallNotice.Proofs.Files.Content
import CallNotice.Proofs.Files.Tree
import CallNotice.Proofs.Text.Splitting

namespace CallNotice

namespace Journal

open Text Json

variable {α : Type} (decode : Json → Option α)

def lineFeed : ByteArray := ⟨#[10]⟩

def EndsLine (bytes : ByteArray) : Prop := ∀ b ∈ bytes.data.toList.getLast?, b = 10

/-- A line that is no text, or a text that is no value. -/
def IsDamaged (line : ByteArray) : Prop :=
  ∀ text, String.fromUTF8? line = some text → read? decode text = none

theorem tail_eq_nil_iff (bytes : ByteArray) : tail bytes = [] ↔ EndsLine bytes :=
  tornLine_eq_nil_iff

theorem endsLine_append_lineFeed (bytes : ByteArray) : EndsLine (bytes ++ lineFeed) := by
  intro b hb
  rw [ByteArray.toList_data_append, lineFeed, List.getLast?_append] at hb
  simpa using hb.symm

theorem ofContent_append {bytes : ByteArray} (h : EndsLine bytes) (more : ByteArray) :
    ofContent decode (bytes ++ more) = ofContent decode bytes ++ ofContent decode more := by
  rw [ofContent_eq_filterMap, ofContent_eq_filterMap, ofContent_eq_filterMap,
    ByteArray.toList_data_append, linesBy_append h, List.filterMap_append]

theorem endsLine_line (j : Json) : EndsLine (line j) := by
  rw [← tail_eq_nil_iff, ← ByteArray.empty_append (b := line j), tail_append_line]

theorem ofContent_line_append {j : Json} {a : α} (hj : decode j = some a) (more : ByteArray) :
    ofContent decode (line j ++ more) = a :: ofContent decode more := by
  have hblank : EndsBlank .empty := endsBlank_of_tail_nil rfl
  have hline : ofContent decode (.empty ++ line j) = [a] := ofContent_append_blank decode hblank hj
  rw [ByteArray.empty_append] at hline
  rw [ofContent_append decode (endsLine_line j), hline, List.singleton_append]

/-- To JSON a carriage return is a blank, so that it makes no difference who takes it off. -/
theorem lineValue?_append_ret (line : List UInt8) :
    lineValue? decode (line ++ [13]) = lineValue? decode line := by
  have hret : line ++ [13] = line ++ utf8 ['\r'] := rfl
  rw [lineValue?, hret, fromUTF8?_append '\r' [] (by decide), lineValue?]
  cases String.fromUTF8? ⟨line.toArray⟩ with
  | none => rfl
  | some t =>
    rw [Option.map_some, Option.bind_some, Option.bind_some, read?,
      parse?_append_space t (by decide), read?]

theorem lineValue?_withoutLast (line : List UInt8) :
    lineValue? decode (withoutLast 13 line) = lineValue? decode line := by
  by_cases hret : line.getLast? = some 13
  · obtain ⟨body, rfl⟩ := List.getLast?_eq_some_iff.mp hret
    rw [withoutLast_concat, lineValue?_append_ret]
  · rw [withoutLast_of_ne hret]

theorem ofContent_line {line : ByteArray} (h : 10 ∉ line.data.toList) :
    ofContent decode (line ++ lineFeed) = (lineValue? decode line.data.toList).toList := by
  have hbytes : (line ++ lineFeed).data.toList = line.data.toList ++ [10] :=
    ByteArray.toList_data_append
  have hnil : linesBy (10 : UInt8) 13 [] = [] := rfl
  rw [ofContent_eq_filterMap, hbytes, linesBy_cons h, hnil, ← lineValue?_withoutLast]
  cases hvalue : lineValue? decode (withoutLast 13 line.data.toList) <;> simp [hvalue]

theorem lineValue?_eq_read? {line : ByteArray} {text : String} (h : String.fromUTF8? line = some text) :
    lineValue? decode line.data.toList = read? decode text := by
  have hline : String.fromUTF8? ⟨line.data.toList.toArray⟩ = some text := h
  rw [lineValue?, hline, Option.bind_some]

theorem isDamaged_of_fromUTF8? {line : ByteArray} (h : String.fromUTF8? line = none) :
    IsDamaged decode line := by
  intro text htext
  rw [h] at htext
  cases htext

theorem isDamaged_iff {line : ByteArray} :
    IsDamaged decode line ↔ lineValue? decode line.data.toList = none := by
  rw [lineValue?, Option.bind_eq_none_iff]
  exact Iff.rfl

theorem ofContent_damaged {bytes line : ByteArray} (hends : EndsLine bytes)
    (hfeed : 10 ∉ line.data.toList) (h : IsDamaged decode line) (more : ByteArray) :
    ofContent decode (bytes ++ line ++ lineFeed ++ more) = ofContent decode (bytes ++ more) := by
  have hline : ofContent decode (line ++ lineFeed) = [] := by
    rw [ofContent_line decode hfeed, (isDamaged_iff decode).mp h]
    rfl
  have hassoc : bytes ++ line ++ lineFeed ++ more = bytes ++ (line ++ lineFeed ++ more) := by
    simp only [ByteArray.append_assoc]
  rw [hassoc, ofContent_append decode hends, ofContent_append decode (endsLine_append_lineFeed line),
    hline, List.nil_append, ofContent_append decode hends]

theorem ofContent_damaged_of_ending {bytes line ending : ByteArray} (hends : EndsLine bytes)
    (hfeed : 10 ∉ line.data.toList) (h : IsDamaged decode line)
    (hending : ending = lineFeed ∨ ending = ⟨#[13]⟩ ++ lineFeed) (more : ByteArray) :
    ofContent decode (bytes ++ line ++ ending ++ more) = ofContent decode (bytes ++ more) := by
  rcases hending with rfl | rfl
  · exact ofContent_damaged decode hends hfeed h more
  · have hbytes : (line ++ ⟨#[13]⟩).data.toList = line.data.toList ++ [13] :=
      ByteArray.toList_data_append
    have hfeed' : 10 ∉ (line ++ ⟨#[13]⟩).data.toList := by
      rw [hbytes]
      simpa using hfeed
    have hdamaged : IsDamaged decode (line ++ ⟨#[13]⟩) := by
      rw [isDamaged_iff, hbytes, lineValue?_append_ret]
      exact (isDamaged_iff decode).mp h
    have hassoc : bytes ++ line ++ (⟨#[13]⟩ ++ lineFeed) ++ more =
        bytes ++ (line ++ ⟨#[13]⟩) ++ lineFeed ++ more := by
      simp only [ByteArray.append_assoc]
    rw [hassoc, ofContent_damaged decode hends hfeed' hdamaged]

theorem values_of_content? {path : String} {files : Files} {bytes : ByteArray}
    (h : files.content? path = some bytes) : values decode path files = ofContent decode bytes := by
  rw [values, h]

end Journal

open Journal

/-- What is read of a file is what is read up to a line feed and what is read behind it, whatever the
bytes; of one line the value on it is read, if it holds one. So a line that is no row or no record, put
in where a line begins, changes nothing that is read of the other lines. -/
theorem damaged_line_costs_only_itself {path : String} {files : ByteArray → Files}
    (h : ∀ bytes, (files bytes).content? path = some bytes) :
    let rows := fun bytes => CallLogJournal.rows path (files bytes)
    let records := fun bytes => NotificationJournal.records path (files bytes)
    (∀ before behind : ByteArray,
      rows (before ++ lineFeed ++ behind) = rows (before ++ lineFeed) ++ rows behind ∧
        records (before ++ lineFeed ++ behind) = records (before ++ lineFeed) ++ records behind) ∧
    (∀ (line : ByteArray) (text : String), 10 ∉ line.data.toList → String.fromUTF8? line = some text →
      rows (line ++ lineFeed) = (read? CallLogEntry.ofJson? text).toList ∧
        records (line ++ lineFeed) = (read? NotificationRecord.ofJson? text).toList) ∧
    ∀ before line ending behind : ByteArray, EndsLine before → 10 ∉ line.data.toList →
      ending = lineFeed ∨ ending = ⟨#[13]⟩ ++ lineFeed →
      (IsDamaged CallLogEntry.ofJson? line →
        rows (before ++ line ++ ending ++ behind) = rows (before ++ behind)) ∧
      (IsDamaged NotificationRecord.ofJson? line →
        records (before ++ line ++ ending ++ behind) = records (before ++ behind)) := by
  intro rows records
  have hrows (bytes : ByteArray) : rows bytes = ofContent CallLogEntry.ofJson? bytes :=
    values_of_content? _ (h bytes)
  have hrecords (bytes : ByteArray) : records bytes = ofContent NotificationRecord.ofJson? bytes :=
    values_of_content? _ (h bytes)
  simp only [hrows, hrecords]
  refine ⟨?_, ?_, ?_⟩
  · intro before behind
    have hends := endsLine_append_lineFeed before
    constructor
    · exact ofContent_append _ hends behind
    · exact ofContent_append _ hends behind
  · intro line text hfeed htext
    rw [ofContent_line _ hfeed, ofContent_line _ hfeed, lineValue?_eq_read? _ htext,
      lineValue?_eq_read? _ htext]
    exact ⟨rfl, rfl⟩
  · intro before line ending behind hends hfeed hending
    constructor
    · intro hdamaged
      exact ofContent_damaged_of_ending _ hends hfeed hdamaged hending behind
    · intro hdamaged
      exact ofContent_damaged_of_ending _ hends hfeed hdamaged hending behind

theorem damaged_line_costs_only_itself_between_two_rows :
    let row := CallLogEntry.missed "555" none ⟨⟨2024, 1, 2, by decide⟩, 3, 4, 5, 0, by decide⟩
    let files := fun bytes => (Files.blank ["home"]).put ["home", "calls.jsonl"] (.file bytes)
    CallLogJournal.rows "calls.jsonl"
      (files (line row.toJson ++ ⟨#[0xff]⟩ ++ lineFeed ++ line row.toJson)) = [row, row] := by
  intro row files
  have hcontent (bytes : ByteArray) : (files bytes).content? "calls.jsonl" = some bytes := rfl
  have hdamaged : IsDamaged CallLogEntry.ofJson? ⟨#[0xff]⟩ :=
    isDamaged_of_fromUTF8? _ (by decide)
  clear_value row
  have hrows : CallLogJournal.rows "calls.jsonl" (files (line row.toJson ++ line row.toJson)) =
      [row, row] := by
    have hread := row.ofJson?_toJson
    rw [CallLogJournal.rows, values_of_content? _ (hcontent _), ofContent_line_append _ hread,
      ← ByteArray.append_empty (b := line row.toJson), ofContent_line_append _ hread]
    rfl
  rw [← hrows]
  exact ((damaged_line_costs_only_itself hcontent).2.2 _ _ _ _ (endsLine_line _) (by decide)
    (.inl rfl)).1 hdamaged

end CallNotice
