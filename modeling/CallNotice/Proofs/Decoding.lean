import CallNotice.Proofs.Call
import CallNotice.Proofs.CallLog.Entry
import CallNotice.Proofs.Files.Content
import CallNotice.Proofs.Settings
import CallNotice.Replay

/-!
Whatever can be read can be written and read again. A first reading may lose something: blanks around
a handle and the case of its scheme, unknown keys, defaults that were not written. What was read
has lost all there is to lose.
-/

namespace CallNotice

inductive RecordType
  | handle
  | bitmap
  | photo
  | callState
  | disconnectCause
  | call
  | callEvent
  | callType
  | callLogEntry
  | intentAction
  | intentTarget
  | intent
  | button
  | notification
  | notificationRecord
  | phrases
  | settings

namespace RecordType

abbrev Value : RecordType → Type
  | handle => Handle
  | bitmap => Bitmap
  | photo => Photo
  | callState => CallState
  | disconnectCause => DisconnectCause
  | call => Call
  | callEvent => CallEvent
  | callType => CallType
  | callLogEntry => CallLogEntry
  | intentAction => IntentAction
  | intentTarget => IntentTarget
  | intent => Intent
  | button => Button
  | notification => Notification
  | notificationRecord => NotificationRecord
  | phrases => Phrases
  | settings => Settings

def toJson : (t : RecordType) → t.Value → Json
  | handle => Handle.toJson
  | bitmap => Bitmap.toJson
  | photo => Photo.toJson
  | callState => CallState.toJson
  | disconnectCause => DisconnectCause.toJson
  | call => Call.toJson
  | callEvent => CallEvent.toJson
  | callType => CallType.toJson
  | callLogEntry => CallLogEntry.toJson
  | intentAction => IntentAction.toJson
  | intentTarget => IntentTarget.toJson
  | intent => Intent.toJson
  | button => Button.toJson
  | notification => Notification.toJson
  | notificationRecord => NotificationRecord.toJson
  | phrases => Phrases.toJson
  | settings => Settings.toJson

def ofJson? (now : Timestamp) : (t : RecordType) → Json → Option t.Value
  | handle => Handle.ofJson?
  | bitmap => Bitmap.ofJson?
  | photo => Photo.ofJson? CallEvent.maxNesting
  | callState => CallState.ofJson?
  | disconnectCause => DisconnectCause.ofJson?
  | call => Call.ofJson? now CallEvent.maxNesting
  | callEvent => CallEvent.ofJson? now CallEvent.maxNesting
  | callType => CallType.ofJson?
  | callLogEntry => CallLogEntry.ofJson?
  | intentAction => IntentAction.ofJson?
  | intentTarget => IntentTarget.ofJson?
  | intent => Intent.ofJson?
  | button => Button.ofJson?
  | notification => Notification.ofJson?
  | notificationRecord => NotificationRecord.ofJson?
  | phrases => Phrases.ofJson?
  | settings => Settings.ofJson?

def ofText? (now : Timestamp) (t : RecordType) (text : String) : Option t.Value :=
  (Json.parse? text).bind (t.ofJson? now)

variable {t : RecordType} {now : Timestamp}

theorem ofJson?_toJson {j : Json} {v : t.Value} (h : t.ofJson? now j = some v) (later : Timestamp) :
    t.ofJson? later (t.toJson v) = some v := by
  cases t with
  | handle => exact Handle.isReadBack_of_ofJson? h
  | bitmap => exact Bitmap.ofJson?_toJson v
  | photo => exact Photo.ofJson?_toJson (by decide) v
  | callState => exact CallState.ofJson?_toJson v
  | disconnectCause => exact DisconnectCause.ofJson?_toJson v
  | call => exact Call.ofJson?_toJson (Call.isReadBack_handle h) later (by decide)
  | callEvent => exact CallEvent.ofJson?_toJson (CallEvent.isReadBack_handle h) later (by decide)
  | callType => exact CallType.ofJson?_toJson v
  | callLogEntry => exact CallLogEntry.ofJson?_toJson v
  | intentAction => exact IntentAction.ofJson?_toJson v
  | intentTarget => exact IntentTarget.ofJson?_toJson v
  | intent => exact Intent.isReadBack_of_ofJson? h
  | button =>
    have hsame := Button.reread_eq (Button.isReadBack_intent h)
    exact (Button.ofJson?_toJson v).trans (congrArg some hsame)
  | notification => exact Notification.isReadBack_of_ofJson? h
  | notificationRecord =>
    exact NotificationRecord.ofJson?_toJson (NotificationRecord.isReadBack_of_ofJson? h)
  | phrases => exact Phrases.ofJson?_toJson v
  | settings => exact Settings.ofJson?_toJson v

/-- A value that was read from a text is read again from what is written of it, in either layout and
at any later time, and the compact layout is one line of a journal. -/
theorem ofText?_written {text : String} {v : t.Value} (h : t.ofText? now text = some v)
    (later : Timestamp) :
    t.ofText? later (t.toJson v).compact = some v ∧
      t.ofText? later (t.toJson v).indented = some v ∧
      '\n' ∉ (t.toJson v).compact.toList ∧
      Text.readableLines (Journal.line (t.toJson v)) = [(t.toJson v).compact] := by
  obtain ⟨j, -, hj⟩ := Option.bind_eq_some_iff.mp h
  have hv := ofJson?_toJson hj later
  refine ⟨?_, ?_, ?_, Journal.readableLines_line _⟩
  · rw [ofText?, Json.parse?_compact, Option.bind_some, hv]
  · rw [ofText?, Json.parse?_indented, Option.bind_some, hv]
  · intro hfeed
    exact absurd (Json.le_of_mem_compact _ hfeed) (by decide)

theorem ofText?_written_call :
    let now : Timestamp := ⟨⟨2024, 1, 2, by decide⟩, 3, 4, 5, 0, by decide⟩
    let later : Timestamp := ⟨⟨2025, 1, 2, by decide⟩, 3, 4, 5, 0, by decide⟩
    let v : call.Value := ⟨⟨some "tel", "555"⟩, none, now, .notDisconnected, none, none⟩
    call.ofText? now "\x7b\"handle\": \" TEL:555\"\x7d" = some v ∧
      call.ofText? later (call.toJson v).indented = some v := by
  intro now later v
  have h : call.ofText? now "\x7b\"handle\": \" TEL:555\"\x7d" = some v := by decide
  exact ⟨h, (ofText?_written h later).2.1⟩

end RecordType

end CallNotice
