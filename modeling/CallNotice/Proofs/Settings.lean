import CallNotice.Proofs.Json.Records
import CallNotice.Settings

namespace CallNotice

open Json

namespace Phrases

def columns (p : Phrases) : Columns :=
  [("missed_call_title", some (.text p.missedCallTitle)),
   ("missed_calls_title", some (.text p.missedCallsTitle)),
   ("missed_calls_msg", some (.text p.missedCallsMessage)), ("unknown", some (.text p.unknown)),
   ("call_back", some (.text p.callBack)), ("message", some (.text p.message))]

theorem toJson_eq (p : Phrases) : p.toJson = .obj p.columns.written := by
  simp only [toJson, columns, Columns.written, field?, field, List.append_assoc, List.append_nil]

theorem ofJson?_toJson (p : Phrases) : Phrases.ofJson? p.toJson = some p := by
  have hkeys : p.columns.keys.Nodup := (by decide : fieldNames.Nodup)
  simp only [toJson_eq, ofJson?, Option.bind_eq_bind, Option.bind_eq_some_iff]
  exact ⟨p.columns.present, Columns.fields?_written (fun _ hk => hk) hkeys,
    p.missedCallTitle, Columns.withDefault_present hkeys rfl rfl,
    p.missedCallsTitle, Columns.withDefault_present hkeys rfl rfl,
    p.missedCallsMessage, Columns.withDefault_present hkeys rfl rfl,
    p.unknown, Columns.withDefault_present hkeys rfl rfl,
    p.callBack, Columns.withDefault_present hkeys rfl rfl,
    p.message, Columns.withDefault_present hkeys rfl rfl, rfl⟩

end Phrases

namespace Settings

def columns (s : Settings) : Columns :=
  [("rtl_context", some (.bool s.rightToLeft)), ("log_pii", some (.bool s.logsHandles)),
   ("strings", some s.phrases.toJson), ("call_log_path", s.callLogPath.map Json.text),
   ("notifications_path", s.notificationsPath.map Json.text)]

theorem toJson_eq (s : Settings) : s.toJson = .obj s.columns.written := by
  simp only [toJson, columns, Columns.written, field?, field, List.append_assoc, List.append_nil]

theorem ofJson?_toJson (s : Settings) : Settings.ofJson? s.toJson = some s := by
  have hkeys : s.columns.keys.Nodup := (by decide : fieldNames.Nodup)
  simp only [toJson_eq, ofJson?, Option.bind_eq_bind, Option.bind_eq_some_iff]
  exact ⟨s.columns.present, Columns.fields?_written (fun _ hk => hk) hkeys,
    s.rightToLeft, Columns.withDefault_present hkeys rfl rfl,
    s.logsHandles, Columns.withDefault_present hkeys rfl rfl,
    s.phrases, Columns.withDefault_present hkeys rfl s.phrases.ofJson?_toJson,
    s.callLogPath, Columns.optional_present hkeys rfl (fun _ _ => rfl) (fun _ => nofun),
    s.notificationsPath, Columns.optional_present hkeys rfl (fun _ _ => rfl) (fun _ => nofun), rfl⟩

end Settings

end CallNotice
