import CallNotice.Json.Fields
import CallNotice.Text.Template

namespace CallNotice

structure Phrases where
  missedCallTitle : String
  missedCallsTitle : String
  missedCallsMessage : String
  unknown : String
  callBack : String
  message : String
  deriving DecidableEq

namespace Phrases

def english : Phrases where
  missedCallTitle := "Missed call"
  missedCallsTitle := "Missed calls"
  missedCallsMessage := "\x7bcount\x7d missed calls"
  unknown := "Unknown"
  callBack := "Call back"
  message := "Message"

instance : Inhabited Phrases := ⟨english⟩

def placeholder : List Char := "\x7bcount\x7d".toList

def countChars (n : Nat) : List Char := Nat.toDigits 10 n

def messageChars (template : List Char) (n : Nat) : List Char :=
  match Text.pieces placeholder template with
  | [_] => countChars n ++ ' ' :: template
  | pieces => (countChars n).intercalate pieces

def countMessage (p : Phrases) (n : UInt32) : String :=
  String.ofList (messageChars p.missedCallsMessage.toList n.toNat)

def fieldNames : List String := ["missed_call_title", "missed_calls_title", "missed_calls_msg",
  "unknown", "call_back", "message"]

def toJson (p : Phrases) : Json :=
  .obj <| Json.field "missed_call_title" (.text p.missedCallTitle) ++
    Json.field "missed_calls_title" (.text p.missedCallsTitle) ++
    Json.field "missed_calls_msg" (.text p.missedCallsMessage) ++
    Json.field "unknown" (.text p.unknown) ++
    Json.field "call_back" (.text p.callBack) ++
    Json.field "message" (.text p.message)

def ofJson? (j : Json) : Option Phrases := do
  let fields ← j.fields? fieldNames
  let missedCallTitle ← fields.withDefault "missed_call_title" english.missedCallTitle Json.string?
  let missedCallsTitle ← fields.withDefault "missed_calls_title" english.missedCallsTitle Json.string?
  let missedCallsMessage ←
    fields.withDefault "missed_calls_msg" english.missedCallsMessage Json.string?
  let unknown ← fields.withDefault "unknown" english.unknown Json.string?
  let callBack ← fields.withDefault "call_back" english.callBack Json.string?
  let message ← fields.withDefault "message" english.message Json.string?
  return { missedCallTitle, missedCallsTitle, missedCallsMessage, unknown, callBack, message }

end Phrases

end CallNotice
