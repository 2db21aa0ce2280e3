import CallNotice.Call
import CallNotice.Proofs.Notification.Codec

namespace CallNotice

open Json

theorem CallState.ofJson?_toJson (s : CallState) : CallState.ofJson? s.toJson = some s := by
  cases s <;> rfl

theorem DisconnectCause.ofJson?_toJson (c : DisconnectCause) :
    DisconnectCause.ofJson? c.toJson = some c := by
  cases c with
  | other code =>
    change (int32? (.int code.toInt)).map other = some (other code)
    rw [int32?_toInt, Option.map_some]
  | _ => rfl

namespace Photo

section Pixels

variable (pixels : List UInt8)

theorem heightItems_pixels (most : Nat) :
    heightItems most (pixels.map fun p => .ofNat p.toNat) = most := by
  induction pixels with
  | nil => rfl
  | cons p pixels ih => exact (congrArg (heightItems · _) (Nat.max_zero most)).trans ih

theorem isSound_ofNat {n : Nat} (h : n < UInt64.size) : (Json.ofNat n).isSound = true := by
  simp [ofNat, isSound, isFinite, droppedDigits, h]

theorem areSound_pixels : areSound (pixels.map fun p => .ofNat p.toNat) = true := by
  induction pixels with
  | nil => rfl
  | cons p pixels ih =>
    have hp : p.toNat < UInt64.size := Nat.lt_trans p.toNat_lt (by decide)
    rw [List.map_cons, areSound, isSound_ofNat hp, ih]
    rfl

end Pixels

theorem height_toJson (p : Photo) : p.toJson.height ≤ 3 := by
  cases p with
  | bitmap b =>
    have htext (s : String) : (Json.text s).height = 0 := rfl
    have hnat (n : Nat) : (Json.ofNat n).height = 0 := rfl
    simp [toJson, Bitmap.toJson, field, height, heightEntries, heightItems_pixels, htext, hnat]
  | vector r => exact Nat.le_add_left 1 2

theorem isSound_toJson (p : Photo) : p.toJson.isSound = true := by
  cases p with
  | bitmap b =>
    have hwidth : b.width.toNat < UInt64.size := Nat.lt_trans b.width.toNat_lt (by decide)
    have hheight : b.height.toNat < UInt64.size := Nat.lt_trans b.height.toNat_lt (by decide)
    simp only [toJson, Bitmap.toJson, field, List.cons_append, List.nil_append, isSound, entriesSound,
      isSound_ofNat hwidth, isSound_ofNat hheight, areSound_pixels]
    rfl
  | vector r => rfl

theorem ofJson?_toJson {room : Nat} (hroom : 3 ≤ room) (p : Photo) :
    Photo.ofJson? room p.toJson = some p := by
  have hheight := Nat.le_trans p.height_toJson hroom
  rw [ofJson?, if_pos (by simp [isSound_toJson, hheight])]
  cases p with
  | bitmap b =>
    let columns : Columns := [("bitmap", some b.toJson)]
    have hkeys : columns.keys.Nodup := (by decide : ["bitmap"].Nodup)
    have htag : untag? (bitmap b).toJson = some ("bitmap", .obj columns.written) := rfl
    rw [htag]
    change ofContent? "bitmap" (.obj columns.written) = some (bitmap b)
    rw [ofContent?, if_pos rfl]
    simp only [Option.bind_eq_bind, Option.bind_eq_some_iff]
    exact ⟨columns.present, Columns.fields?_written (fun _ hk => hk) hkeys,
      b, Columns.required_present hkeys rfl b.ofJson?_toJson, rfl⟩
  | vector r =>
    let columns : Columns := [("resource", some (.text r))]
    have hkeys : columns.keys.Nodup := (by decide : ["resource"].Nodup)
    have htag : untag? (vector r).toJson = some ("vector", .obj columns.written) := rfl
    rw [htag]
    change ofContent? "vector" (.obj columns.written) = some (vector r)
    rw [ofContent?, if_neg (by decide), if_pos rfl]
    simp only [Option.bind_eq_bind, Option.bind_eq_some_iff]
    exact ⟨columns.present, Columns.fields?_written (fun _ hk => hk) hkeys,
      r, Columns.required_present hkeys rfl rfl, rfl⟩

end Photo

namespace Call

def columns (c : Call) : Columns :=
  [("handle", some c.handle.toJson), ("name", some (.ofOption .text c.name)),
   ("creation_time", some c.created.toJson), ("disconnect_cause", some c.cause.toJson),
   ("photo_icon", c.photoIcon.map Bitmap.toJson), ("photo", c.photo.map Photo.toJson)]

theorem toJson_eq (c : Call) : c.toJson = .obj c.columns.written := by
  simp only [toJson, columns, Columns.written, field?, field, List.append_assoc, List.append_nil]

theorem photo_toJson_ne_null (p : Photo) : p.toJson ≠ .null := by
  cases p <;> exact nofun

theorem ofJson?_toJson {c : Call} (h : c.handle.IsReadBack) (now : Timestamp) {room : Nat}
    (hroom : 4 ≤ room) : Call.ofJson? now room c.toJson = some c := by
  have hkeys : c.columns.keys.Nodup := (by decide : fieldNames.Nodup)
  simp only [toJson_eq, ofJson?, Option.bind_eq_bind, Option.bind_eq_some_iff]
  exact ⟨c.columns.present, Columns.fields?_written (fun _ hk => hk) hkeys,
    c.handle, Columns.withDefault_present hkeys rfl h,
    c.name, Columns.nullable_present hkeys rfl (fun _ _ => rfl) (fun _ => nofun),
    c.created, Columns.withDefault_present hkeys rfl c.created.ofJson?_toJson,
    c.cause, Columns.withDefault_present hkeys rfl c.cause.ofJson?_toJson,
    c.photoIcon, Columns.optional_present hkeys rfl (fun b _ => b.ofJson?_toJson) (fun _ => nofun),
    c.photo, Columns.optional_present hkeys rfl
      (fun p _ => p.ofJson?_toJson (by omega)) photo_toJson_ne_null, rfl⟩

theorem exists_ofText_of_ofJson? {now : Timestamp} {room : Nat} {j : Json} {c : Call}
    (hj : Call.ofJson? now room j = some c) : ∃ s, c.handle = Handle.ofText s := by
  simp only [ofJson?, Option.bind_eq_bind, Option.bind_eq_some_iff] at hj
  obtain ⟨fields, -, handle, hhandle, name, -, created, -, cause, -, photoIcon, -, photo, -, heq⟩ := hj
  cases heq
  obtain rfl | ⟨j, hj⟩ := Fields.exists_of_withDefault hhandle
  · exact ⟨"", rfl⟩
  · obtain ⟨s, -, rfl⟩ := Option.map_eq_some_iff.mp hj
    exact ⟨s, rfl⟩

theorem isReadBack_handle {now : Timestamp} {room : Nat} {j : Json} {c : Call}
    (hj : Call.ofJson? now room j = some c) : c.handle.IsReadBack := by
  obtain ⟨s, hs⟩ := exists_ofText_of_ofJson? hj
  rw [Handle.isReadBack_iff, hs, Handle.reread_ofText]

end Call

namespace CallEvent

def columns (e : CallEvent) : Columns :=
  [("call", some e.call.toJson), ("old_state", some e.before.toJson),
   ("new_state", some e.after.toJson)]

theorem toJson_eq (e : CallEvent) : e.toJson = .obj e.columns.written := by
  simp only [toJson, columns, Columns.written, field?, field, List.append_assoc, List.append_nil]

theorem ofJson?_toJson {e : CallEvent} (h : e.call.handle.IsReadBack) (now : Timestamp) {room : Nat}
    (hroom : 5 ≤ room) : CallEvent.ofJson? now room e.toJson = some e := by
  have hkeys : e.columns.keys.Nodup := (by decide : ["call", "old_state", "new_state"].Nodup)
  simp only [toJson_eq, ofJson?, Option.bind_eq_bind, Option.bind_eq_some_iff]
  exact ⟨e.columns.present, Columns.fields?_written (fun _ hk => hk) hkeys,
    e.call, Columns.required_present hkeys rfl (Call.ofJson?_toJson h now (by omega)),
    e.before, Columns.required_present hkeys rfl e.before.ofJson?_toJson,
    e.after, Columns.required_present hkeys rfl e.after.ofJson?_toJson, rfl⟩

theorem isReadBack_handle {now : Timestamp} {room : Nat} {j : Json} {e : CallEvent}
    (hj : CallEvent.ofJson? now room j = some e) : e.call.handle.IsReadBack := by
  simp only [ofJson?, Option.bind_eq_bind, Option.bind_eq_some_iff] at hj
  obtain ⟨fields, -, call, hcall, before, -, after, -, heq⟩ := hj
  cases heq
  obtain ⟨j, hj⟩ := Fields.exists_of_required hcall
  exact Call.isReadBack_handle hj

end CallEvent

end CallNotice
