import CallNotice.Proofs.CallLog.Entry
import CallNotice.Proofs.Files.Content
import CallNotice.Proofs.Notification.Codec

namespace CallNotice

open Journal

def CallLogEntry.anonymous (e : CallLogEntry) : CallLogEntry := { e with number := "", name := none }

def NotificationRecord.subject (r : NotificationRecord) : RecordKind × Int32 := (r.kind, r.id)

structure Outline where
  torn : List UInt8
  rows : List CallLogEntry
  records : List (RecordKind × Int32)

namespace Outline

def ofContent (bytes : ByteArray) : Outline where
  torn := tail bytes
  rows := (ended CallLogEntry.ofJson? bytes).map CallLogEntry.anonymous
  records := (ended NotificationRecord.ofJson? bytes).map NotificationRecord.subject

def IsRecord (j : Json) : Prop :=
  ∃ key value entries, Json.IsPlainKey key ∧ j = .obj ((some key, value) :: entries)

/-- Both readers see the same in two records. -/
structure SameLine (j j' : Json) : Prop where
  isRecord : IsRecord j
  isRecord' : IsRecord j'
  row : (CallLogEntry.ofJson? j).map CallLogEntry.anonymous =
    (CallLogEntry.ofJson? j').map CallLogEntry.anonymous
  record : (NotificationRecord.ofJson? j).map NotificationRecord.subject =
    (NotificationRecord.ofJson? j').map NotificationRecord.subject

variable {bytes bytes' : ByteArray} {j j' : Json}

section Lines

variable {α β : Type} {decode : Json → Option α} {f : α → β}

theorem map_ended_append_line (htail : tail bytes = tail bytes')
    (hended : (ended decode bytes).map f = (ended decode bytes').map f)
    (hline : (decode j).map f = (decode j').map f)
    (hj : IsRecord j) (hj' : IsRecord j') :
    (ended decode (bytes ++ line j)).map f = (ended decode (bytes' ++ line j')).map f := by
  rw [ended_append_line, ended_append_line, List.map_append, List.map_append, hended]
  congr 1
  -- Whether the new line is read depends only on the torn line before it, which is the same.
  by_cases hblank : EndsBlank bytes
  · have hblank' : EndsBlank bytes' := by rwa [EndsBlank, ← htail]
    rw [lineValue?_append_blank decode hblank, lineValue?_append_blank decode hblank',
      ← Option.toList_map, ← Option.toList_map, hline]
  · have hblank' : ¬EndsBlank bytes' := by rwa [EndsBlank, ← htail]
    obtain ⟨key, value, entries, hkey, rfl⟩ := hj
    obtain ⟨key', value', entries', hkey', rfl⟩ := hj'
    rw [lineValue?_append_torn decode hblank hkey, lineValue?_append_torn decode hblank' hkey']

theorem map_ofContent_eq (htail : tail bytes = tail bytes')
    (hended : (ended decode bytes).map f = (ended decode bytes').map f) :
    (Journal.ofContent decode bytes).map f = (Journal.ofContent decode bytes').map f := by
  rw [ofContent_eq, ofContent_eq, List.map_append, List.map_append, hended, htail]

end Lines

theorem tail_eq (h : ofContent bytes = ofContent bytes') : tail bytes = tail bytes' :=
  congrArg torn h

theorem rows_eq (h : ofContent bytes = ofContent bytes') :
    (Journal.ofContent CallLogEntry.ofJson? bytes).map CallLogEntry.anonymous =
      (Journal.ofContent CallLogEntry.ofJson? bytes').map CallLogEntry.anonymous :=
  map_ofContent_eq (tail_eq h) (congrArg rows h)

theorem records_eq (h : ofContent bytes = ofContent bytes') :
    (Journal.ofContent NotificationRecord.ofJson? bytes).map NotificationRecord.subject =
      (Journal.ofContent NotificationRecord.ofJson? bytes').map NotificationRecord.subject :=
  map_ofContent_eq (tail_eq h) (congrArg records h)

theorem append_line (h : ofContent bytes = ofContent bytes') (hline : SameLine j j') :
    ofContent (bytes ++ line j) = ofContent (bytes' ++ line j') := by
  have htail := tail_eq h
  have hrows :=
    map_ended_append_line htail (congrArg rows h) hline.row hline.isRecord hline.isRecord'
  have hrecords :=
    map_ended_append_line htail (congrArg records h) hline.record hline.isRecord hline.isRecord'
  simp only [ofContent, tail_append_line, hrows, hrecords]

theorem content_eq {js js' : List Json} (h : List.Forall₂ SameLine js js') :
    ofContent (content js) = ofContent (content js') := by
  have hempty : ofContent .empty = ofContent .empty := rfl
  exact List.rel_foldl (R := SameLine) (P := fun bytes bytes' => ofContent bytes = ofContent bytes')
    (fun _ _ hbytes _ _ hline => append_line hbytes hline) hempty h

theorem not_row (r : NotificationRecord) : CallLogEntry.ofJson? r.toJson = none := by
  rw [Option.eq_none_iff_forall_ne_some]
  intro e he
  simp only [r.toJson_eq, CallLogEntry.ofJson?, Option.bind_eq_bind, Option.bind_eq_some_iff] at he
  obtain ⟨fields, hfields, _, -, _, hnumber, -⟩ := he
  have habsent := Json.Columns.lookup_fields?_eq_none
    (by decide : "number" ∉ ["ts", "op", "id", "notification"]) hfields
  rw [Json.Fields.required, habsent] at hnumber
  cases hnumber

theorem not_record (e : CallLogEntry) : NotificationRecord.ofJson? e.toJson = none := by
  rw [Option.eq_none_iff_forall_ne_some]
  intro r hr
  simp only [e.toJson_eq, NotificationRecord.ofJson?, Option.bind_eq_bind,
    Option.bind_eq_some_iff] at hr
  obtain ⟨fields, hfields, _, hmoment, -⟩ := hr
  have habsent := Json.Columns.lookup_fields?_eq_none
    (by decide : "ts" ∉ CallLogEntry.fieldNames) hfields
  rw [Json.Fields.required, habsent] at hmoment
  cases hmoment

theorem sameLine_row {e e' : CallLogEntry} (h : e.anonymous = e'.anonymous) :
    SameLine e.toJson e'.toJson := by
  have hkey : Json.IsPlainKey "id" := ⟨List.all_eq_true.mp rfl, by decide, rfl⟩
  refine ⟨⟨_, _, _, hkey, rfl⟩, ⟨_, _, _, hkey, rfl⟩, ?_, ?_⟩
  · rw [e.ofJson?_toJson, e'.ofJson?_toJson, Option.map_some, Option.map_some, h]
  · rw [not_record, not_record]

theorem sameLine_record {r r' : NotificationRecord} (h : r.subject = r'.subject) :
    SameLine r.toJson r'.toJson := by
  have hkey : Json.IsPlainKey "ts" := ⟨List.all_eq_true.mp rfl, by decide, rfl⟩
  refine ⟨⟨_, _, _, hkey, rfl⟩, ⟨_, _, _, hkey, rfl⟩, ?_, ?_⟩
  · rw [not_row, not_row]
  · rw [r.ofJson?_toJson_eq, r'.ofJson?_toJson_eq]
    exact congrArg some h

theorem forall₂_of_map_eq {α β : Type} {f : α → β} {as as' : List α} (h : as.map f = as'.map f) :
    List.Forall₂ (fun a a' => f a = f a') as as' := by
  rwa [← List.forall₂_eq_eq_eq, List.forall₂_map_left_iff, List.forall₂_map_right_iff] at h

theorem forall₂_sameLine {α β : Type} {encode : α → Json} {f : α → β}
    (hline : ∀ {a a' : α}, f a = f a' → SameLine (encode a) (encode a')) {as as' : List α}
    (h : as.map f = as'.map f) : List.Forall₂ SameLine (as.map encode) (as'.map encode) := by
  rw [List.forall₂_map_left_iff, List.forall₂_map_right_iff]
  exact (forall₂_of_map_eq h).imp fun _ _ => hline

end Outline

end CallNotice
