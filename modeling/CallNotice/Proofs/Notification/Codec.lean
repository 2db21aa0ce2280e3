import CallNotice.Notification.Record
import CallNotice.Proofs.Handle
import CallNotice.Proofs.Json.Records
import CallNotice.Proofs.Time.RoundTrip

namespace CallNotice

open Json

theorem IntentAction.ofJson?_toJson (a : IntentAction) : IntentAction.ofJson? a.toJson = some a := by
  cases a <;> rfl

theorem IntentTarget.ofJson?_toJson (t : IntentTarget) : IntentTarget.ofJson? t.toJson = some t := by
  cases t <;> rfl

theorem RecordKind.ofJson?_toJson (k : RecordKind) : RecordKind.ofJson? k.toJson = some k := by
  cases k <;> rfl

namespace Handle

theorem ofJson?_toJson (h : Handle) : Handle.ofJson? h.toJson = some h.reread := rfl

def IsReadBack (h : Handle) : Prop := Handle.ofJson? h.toJson = some h

theorem isReadBack_iff {h : Handle} : h.IsReadBack ↔ h.reread = h := Option.some_inj

theorem isReadBack_of_ofJson? {j : Json} {h : Handle} (hj : Handle.ofJson? j = some h) :
    h.IsReadBack := by
  obtain ⟨s, -, rfl⟩ := Option.map_eq_some_iff.mp hj
  exact congrArg some (reread_ofText s)

end Handle

namespace Intent

def columns (i : Intent) : Columns :=
  [("action", some i.action.toJson), ("data", i.data.map Handle.toJson),
   ("mime_type", i.mimeType.map Json.text), ("target", some i.target.toJson)]

theorem toJson_eq (i : Intent) : i.toJson = .obj i.columns.written := by
  simp only [toJson, columns, Columns.written, field?, field, List.append_assoc, List.append_nil]

def reread (i : Intent) : Intent := { i with data := i.data.map Handle.reread }

theorem ofJson?_toJson (i : Intent) : Intent.ofJson? i.toJson = some i.reread := by
  have hkeys : i.columns.keys.Nodup := (by decide : ["action", "data", "mime_type", "target"].Nodup)
  simp only [toJson_eq, ofJson?, Option.bind_eq_bind, Option.bind_eq_some_iff]
  exact ⟨i.columns.present, Columns.fields?_written (fun _ hk => hk) hkeys,
    i.action, Columns.required_present hkeys rfl i.action.ofJson?_toJson,
    i.data.map Handle.reread, Columns.optional_present_map hkeys _ rfl
      (fun h _ => h.ofJson?_toJson) (fun _ => nofun),
    i.mimeType, Columns.optional_present hkeys rfl (fun _ _ => rfl) (fun _ => nofun),
    i.target, Columns.required_present hkeys rfl i.target.ofJson?_toJson, rfl⟩

def IsReadBack (i : Intent) : Prop := Intent.ofJson? i.toJson = some i

theorem isReadBack_iff {i : Intent} : i.IsReadBack ↔ i.reread = i := by
  rw [IsReadBack, ofJson?_toJson, Option.some_inj]

theorem isReadBack {i : Intent} (hdata : ∀ h ∈ i.data, h.IsReadBack) : i.IsReadBack := by
  have hsame : i.data.map Handle.reread = i.data :=
    (Option.map_congr fun h hh => Handle.isReadBack_iff.mp (hdata h hh)).trans Option.map_id_apply'
  rw [isReadBack_iff, reread, hsame]

theorem isReadBack_of_ofJson? {j : Json} {i : Intent} (hj : Intent.ofJson? j = some i) :
    i.IsReadBack := by
  simp only [ofJson?, Option.bind_eq_bind, Option.bind_eq_some_iff] at hj
  obtain ⟨fields, -, action, -, data, hdata, mimeType, -, target, -, heq⟩ := hj
  cases heq
  apply isReadBack
  rintro h rfl
  obtain ⟨j, hj⟩ := Fields.exists_of_optional hdata
  exact Handle.isReadBack_of_ofJson? hj

end Intent

namespace Button

def columns (b : Button) : Columns :=
  [("icon", some (.text b.icon)), ("title", some (.text b.title)),
   ("intent", some b.intent.toJson)]

theorem toJson_eq (b : Button) : b.toJson = .obj b.columns.written := by
  simp only [toJson, columns, Columns.written, field?, field, List.append_assoc, List.append_nil]

def reread (b : Button) : Button := { b with intent := b.intent.reread }

theorem ofJson?_toJson (b : Button) : Button.ofJson? b.toJson = some b.reread := by
  have hkeys : b.columns.keys.Nodup := (by decide : ["icon", "title", "intent"].Nodup)
  simp only [toJson_eq, ofJson?, Option.bind_eq_bind, Option.bind_eq_some_iff]
  exact ⟨b.columns.present, Columns.fields?_written (fun _ hk => hk) hkeys,
    b.icon, Columns.required_present hkeys rfl rfl,
    b.title, Columns.required_present hkeys rfl rfl,
    b.intent.reread, Columns.required_present hkeys rfl b.intent.ofJson?_toJson, rfl⟩

theorem reread_eq {b : Button} (h : b.intent.IsReadBack) : b.reread = b := by
  rw [reread, Intent.isReadBack_iff.mp h]

theorem isReadBack_intent {j : Json} {b : Button} (hj : Button.ofJson? j = some b) :
    b.intent.IsReadBack := by
  simp only [ofJson?, Option.bind_eq_bind, Option.bind_eq_some_iff] at hj
  obtain ⟨fields, -, icon, -, title, -, intent, hintent, heq⟩ := hj
  cases heq
  obtain ⟨j, hj⟩ := Fields.exists_of_required hintent
  exact Intent.isReadBack_of_ofJson? hj

end Button

namespace Bitmap

def columns (b : Bitmap) : Columns :=
  [("width", some (.ofNat b.width.toNat)), ("height", some (.ofNat b.height.toNat)),
   ("pixels", some (.arr (b.pixels.map fun p => .ofNat p.toNat)))]

theorem toJson_eq (b : Bitmap) : b.toJson = .obj b.columns.written := by
  simp only [toJson, columns, Columns.written, field?, field, List.append_assoc, List.append_nil]

theorem ofJson?_toJson (b : Bitmap) : Bitmap.ofJson? b.toJson = some b := by
  have hkeys : b.columns.keys.Nodup := (by decide : ["width", "height", "pixels"].Nodup)
  simp only [toJson_eq, ofJson?, Option.bind_eq_bind, Option.bind_eq_some_iff]
  exact ⟨b.columns.present, Columns.fields?_written (fun _ hk => hk) hkeys,
    b.width, Columns.required_present hkeys rfl (uint32?_ofNat b.width),
    b.height, Columns.required_present hkeys rfl (uint32?_ofNat b.height),
    b.pixels, Columns.withDefault_present hkeys rfl (list?_map fun p _ => uint8?_ofNat p), rfl⟩

end Bitmap

namespace Notification

def columns (n : Notification) : Columns :=
  [("small_icon", some (.text n.smallIcon)), ("when", some n.moment.toJson),
   ("title", some (.text n.title)), ("text", some (.text n.text)),
   ("content_intent", some n.contentIntent.toJson),
   ("delete_intent", n.deleteIntent.map Intent.toJson), ("auto_cancel", some (.bool n.autoCancel)),
   ("actions", some (.arr (n.buttons.map Button.toJson))),
   ("large_icon", n.largeIcon.map Bitmap.toJson), ("show_lights", some (.bool n.showLights)),
   ("default_lights", some (.bool n.defaultLights))]

theorem toJson_eq (n : Notification) : n.toJson = .obj n.columns.written := by
  simp only [toJson, columns, Columns.written, field?, field, List.append_assoc, List.append_nil]

def reread (n : Notification) : Notification :=
  { n with
    contentIntent := n.contentIntent.reread
    deleteIntent := n.deleteIntent.map Intent.reread
    buttons := n.buttons.map Button.reread }

theorem ofJson?_toJson (n : Notification) : Notification.ofJson? n.toJson = some n.reread := by
  have hkeys : n.columns.keys.Nodup := (by decide : fieldNames.Nodup)
  simp only [toJson_eq, ofJson?, Option.bind_eq_bind, Option.bind_eq_some_iff]
  exact ⟨n.columns.present, Columns.fields?_written (fun _ hk => hk) hkeys,
    n.smallIcon, Columns.required_present hkeys rfl rfl,
    n.moment, Columns.required_present hkeys rfl n.moment.ofJson?_toJson,
    n.title, Columns.required_present hkeys rfl rfl,
    n.text, Columns.required_present hkeys rfl rfl,
    n.contentIntent.reread, Columns.required_present hkeys rfl n.contentIntent.ofJson?_toJson,
    n.deleteIntent.map Intent.reread, Columns.optional_present_map hkeys _ rfl
      (fun i _ => i.ofJson?_toJson) (fun _ => nofun),
    n.autoCancel, Columns.withDefault_present hkeys rfl rfl,
    n.buttons.map Button.reread, Columns.withDefault_present hkeys rfl
      (list?_map_map _ fun b _ => b.ofJson?_toJson),
    n.largeIcon, Columns.optional_present hkeys rfl (fun b _ => b.ofJson?_toJson) (fun _ => nofun),
    n.showLights, Columns.withDefault_present hkeys rfl rfl,
    n.defaultLights, Columns.withDefault_present hkeys rfl rfl, rfl⟩

def IsReadBack (n : Notification) : Prop := Notification.ofJson? n.toJson = some n

theorem isReadBack_iff {n : Notification} : n.IsReadBack ↔ n.reread = n := by
  rw [IsReadBack, ofJson?_toJson, Option.some_inj]

theorem isReadBack {n : Notification} (hcontent : n.contentIntent.IsReadBack)
    (hdelete : ∀ i ∈ n.deleteIntent, i.IsReadBack) (hbuttons : ∀ b ∈ n.buttons, b.intent.IsReadBack) :
    n.IsReadBack := by
  have hdelete' : n.deleteIntent.map Intent.reread = n.deleteIntent :=
    (Option.map_congr fun i hi => Intent.isReadBack_iff.mp (hdelete i hi)).trans Option.map_id_apply'
  have hbuttons' : n.buttons.map Button.reread = n.buttons :=
    (List.map_congr_left fun b hb => Button.reread_eq (hbuttons b hb)).trans (List.map_id' _)
  rw [isReadBack_iff, reread, Intent.isReadBack_iff.mp hcontent, hdelete', hbuttons']

theorem isReadBack_of_ofJson? {j : Json} {n : Notification} (hj : Notification.ofJson? j = some n) :
    n.IsReadBack := by
  simp only [ofJson?, Option.bind_eq_bind, Option.bind_eq_some_iff] at hj
  obtain ⟨fields, -, smallIcon, -, moment, -, title, -, text, -, contentIntent, hcontent,
    deleteIntent, hdelete, autoCancel, -, buttons, hbuttons, largeIcon, -, showLights, -,
    defaultLights, -, heq⟩ := hj
  cases heq
  apply isReadBack
  · obtain ⟨j, hj⟩ := Fields.exists_of_required hcontent
    exact Intent.isReadBack_of_ofJson? hj
  · rintro i rfl
    obtain ⟨j, hj⟩ := Fields.exists_of_optional hdelete
    exact Intent.isReadBack_of_ofJson? hj
  · intro b hb
    obtain rfl | ⟨j, hj⟩ := Fields.exists_of_withDefault hbuttons
    · cases hb
    · obtain ⟨j, hj⟩ := exists_of_mem_list? hj hb
      exact Button.isReadBack_intent hj

end Notification

namespace NotificationRecord

def columns (r : NotificationRecord) : Columns :=
  [("ts", some r.moment.toJson), ("op", some r.kind.toJson), ("id", some (.int r.id.toInt)),
   ("notification", r.notification.map Notification.toJson)]

theorem toJson_eq (r : NotificationRecord) : r.toJson = .obj r.columns.written := by
  simp only [toJson, columns, Columns.written, field?, field, List.append_assoc, List.append_nil]

theorem ofJson?_toJson_eq (r : NotificationRecord) : NotificationRecord.ofJson? r.toJson =
    some { r with notification := r.notification.map Notification.reread } := by
  have hkeys : r.columns.keys.Nodup := (by decide : ["ts", "op", "id", "notification"].Nodup)
  simp only [toJson_eq, ofJson?, Option.bind_eq_bind, Option.bind_eq_some_iff]
  exact ⟨r.columns.present, Columns.fields?_written (fun _ hk => hk) hkeys,
    r.moment, Columns.required_present hkeys rfl r.moment.ofJson?_toJson,
    r.kind, Columns.required_present hkeys rfl r.kind.ofJson?_toJson,
    r.id, Columns.required_present hkeys rfl (int32?_toInt r.id),
    r.notification.map Notification.reread, Columns.optional_present_map hkeys _ rfl
      (fun n _ => n.ofJson?_toJson) (fun _ => nofun), rfl⟩

theorem ofJson?_toJson {r : NotificationRecord} (h : ∀ n ∈ r.notification, n.IsReadBack) :
    NotificationRecord.ofJson? r.toJson = some r := by
  have hsame : r.notification.map Notification.reread = r.notification :=
    (Option.map_congr fun n hn => Notification.isReadBack_iff.mp (h n hn)).trans Option.map_id_apply'
  rw [ofJson?_toJson_eq, hsame]

theorem isReadBack_of_ofJson? {j : Json} {r : NotificationRecord}
    (hj : NotificationRecord.ofJson? j = some r) : ∀ n ∈ r.notification, n.IsReadBack := by
  simp only [ofJson?, Option.bind_eq_bind, Option.bind_eq_some_iff] at hj
  obtain ⟨fields, -, moment, -, kind, -, id, -, notification, hnotification, heq⟩ := hj
  cases heq
  rintro n rfl
  obtain ⟨j, hj⟩ := Fields.exists_of_optional hnotification
  exact Notification.isReadBack_of_ofJson? hj

end NotificationRecord

end CallNotice
