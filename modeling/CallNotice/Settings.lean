import CallNotice.Act
import CallNotice.Json.Printer
import CallNotice.Json.Reader
import CallNotice.Phrases

namespace CallNotice

structure Settings where
  rightToLeft : Bool
  logsHandles : Bool
  phrases : Phrases
  callLogPath : Option String
  notificationsPath : Option String
  deriving DecidableEq

namespace Settings

def standard : Settings := ⟨false, false, .english, none, none⟩

def toJson (s : Settings) : Json :=
  .obj <| Json.field "rtl_context" (.bool s.rightToLeft) ++
    Json.field "log_pii" (.bool s.logsHandles) ++ Json.field "strings" s.phrases.toJson ++
    Json.field? "call_log_path" (s.callLogPath.map Json.text) ++
    Json.field? "notifications_path" (s.notificationsPath.map Json.text)

def fieldNames : List String :=
  ["rtl_context", "log_pii", "strings", "call_log_path", "notifications_path"]

def ofJson? (j : Json) : Option Settings := do
  let fields ← j.fields? fieldNames
  let rightToLeft ← fields.withDefault "rtl_context" false Json.bool?
  let logsHandles ← fields.withDefault "log_pii" false Json.bool?
  let phrases ← fields.withDefault "strings" .english Phrases.ofJson?
  let callLogPath ← fields.optional "call_log_path" Json.string?
  let notificationsPath ← fields.optional "notifications_path" Json.string?
  return { rightToLeft, logsHandles, phrases, callLogPath, notificationsPath }

def directory (home : String) : String := Path.join (Path.join home ".config") "missed-call-notifier"

def defaultPath (home : String) : String := Path.join (directory home) "config.json"

def callLogFile (home : String) (s : Settings) : String :=
  s.callLogPath.getD (Path.join (directory home) "call_log.jsonl")

def notificationsFile (home : String) (s : Settings) : String :=
  s.notificationsPath.getD (Path.join (directory home) "notifications.jsonl")

def load (path : String) : Act Settings := do
  if !(← Act.readFiles (·.holds path)) then
    Act.tell (.settingsAbsent path)
    return standard
  match ← Act.readFiles (·.readText path) with
  | .error _ => throw (.refused ("Failed to read config " ++ path))
  | .ok text =>
    match (Json.parse? text).bind ofJson? with
    | some settings => return settings
    | none => throw (.malformed ("Invalid config " ++ path))

end Settings

end CallNotice
