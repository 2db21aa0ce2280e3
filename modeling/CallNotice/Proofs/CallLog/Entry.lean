import CallNotice.CallLog.Entry
import CallNotice.Proofs.Json.Records
import CallNotice.Proofs.Time.RoundTrip

namespace CallNotice

open Json

theorem CallType.ofJson?_toJson (t : CallType) : CallType.ofJson? t.toJson = some t := by
  cases t <;> rfl

namespace CallLogEntry

def columns (e : CallLogEntry) : Columns :=
  [("id", some (.ofNat e.id.toNat)), ("number", some (.text e.number)),
   ("name", e.name.map Json.text), ("type", some e.type.toJson), ("date", some e.date.toJson),
   ("duration_secs", some (.ofNat e.seconds.toNat)), ("new", some (.bool e.isNew)),
   ("is_read", some (.bool e.isRead))]

theorem toJson_eq (e : CallLogEntry) : e.toJson = .obj e.columns.written := by
  simp only [toJson, columns, Columns.written, field?, field, List.append_assoc, List.append_nil]

theorem ofJson?_toJson (e : CallLogEntry) : CallLogEntry.ofJson? e.toJson = some e := by
  have hkeys : e.columns.keys.Nodup := (by decide : fieldNames.Nodup)
  simp only [toJson_eq, ofJson?, Option.bind_eq_bind, Option.bind_eq_some_iff]
  exact ⟨e.columns.present, Columns.fields?_written (fun _ hk => hk) hkeys,
    e.id, Columns.required_present hkeys rfl (uint64?_ofNat e.id),
    e.number, Columns.required_present hkeys rfl rfl,
    e.name, Columns.optional_present hkeys rfl (fun _ _ => rfl) (fun _ => nofun),
    e.type, Columns.required_present hkeys rfl e.type.ofJson?_toJson,
    e.date, Columns.required_present hkeys rfl e.date.ofJson?_toJson,
    e.seconds, Columns.withDefault_present hkeys rfl (uint64?_ofNat e.seconds),
    e.isNew, Columns.withDefault_present hkeys rfl rfl,
    e.isRead, Columns.withDefault_present hkeys rfl rfl, rfl⟩

end CallLogEntry

end CallNotice
