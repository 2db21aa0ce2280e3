import CallNotice.Json.Fields

namespace CallNotice.Json

abbrev Columns := List (String × Option Json)

namespace Columns

def keys (columns : Columns) : List String := columns.map Prod.fst

def written : Columns → List (JsonText × Json)
  | [] => []
  | (key, value) :: columns => field? key value ++ written columns

def present : Columns → Fields
  | [] => []
  | (_, none) :: columns => present columns
  | (key, some value) :: columns => (key, value) :: present columns

variable {key : String} {columns : Columns}

theorem key_of_mem_present {entry : String × Json} (h : entry ∈ columns.present) :
    entry.1 ∈ columns.keys := by
  induction columns with
  | nil => cases h
  | cons c cs ih =>
    obtain ⟨k, v⟩ := c
    cases v with
    | none => exact List.mem_cons_of_mem k (ih h)
    | some v =>
      rcases List.mem_cons.mp h with rfl | h
      · exact List.mem_cons_self
      · exact List.mem_cons_of_mem k (ih h)

theorem mapM_keyed?_written (columns : Columns) :
    columns.written.mapM keyed? = some columns.present := by
  induction columns with
  | nil => rfl
  | cons c cs ih =>
    obtain ⟨k, v⟩ := c
    cases v with
    | none => exact ih
    | some v => simp [written, present, field?, keyed?, ih]

theorem areDistinct_present (h : columns.keys.Nodup) : columns.present.areDistinct = true := by
  induction columns with
  | nil => rfl
  | cons c cs ih =>
    obtain ⟨k, v⟩ := c
    obtain ⟨hk, hcs⟩ := List.nodup_cons.mp h
    have hrest := ih hcs
    cases v with
    | none => exact hrest
    | some v =>
      have hne : (present cs).all (fun e => e.1 != k) = true := by
        rw [List.all_eq_true]
        intro e he
        rw [bne_iff_ne]
        rintro rfl
        exact hk (key_of_mem_present he)
      rw [present, Fields.areDistinct, hne, hrest]
      rfl

theorem lookup_present_eq_none (h : key ∉ columns.keys) : columns.present.lookup key = none := by
  rw [List.lookup_eq_none_iff]
  intro e he
  rw [bne_iff_ne]
  rintro rfl
  exact h (key_of_mem_present he)

theorem lookup_present (h : columns.keys.Nodup) :
    columns.present.lookup key = (columns.lookup key).join := by
  induction columns with
  | nil => rfl
  | cons c cs ih =>
    obtain ⟨k, v⟩ := c
    obtain ⟨hk, hcs⟩ := List.nodup_cons.mp h
    by_cases hkey : key = k
    · subst hkey
      have habsent := lookup_present_eq_none hk
      cases v with
      | none => simp [present, habsent]
      | some v => simp [present]
    · have hbeq : (key == k) = false := beq_eq_false_iff_ne.mpr hkey
      cases v with
      | none => simp [present, List.lookup_cons, hbeq, ih hcs]
      | some v => simp [present, List.lookup_cons, hbeq, ih hcs]

theorem knownEntries?_written {names : List String} (hnames : ∀ k ∈ columns.keys, k ∈ names) :
    knownEntries? names columns.written = some columns.present := by
  rw [knownEntries?, mapM_keyed?_written, Option.map_some, List.filter_eq_self.mpr]
  intro e he
  exact List.contains_iff_mem.mpr (hnames e.1 (key_of_mem_present he))

theorem fields?_written {names : List String} (hnames : ∀ k ∈ columns.keys, k ∈ names)
    (hkeys : columns.keys.Nodup) :
    (Json.obj columns.written).fields? names = some columns.present := by
  rw [fields?, knownEntries?_written hnames]
  exact Option.filter_eq_some_iff.mpr ⟨rfl, areDistinct_present hkeys⟩

theorem lookup_fields?_eq_none {names : List String} {fields : Fields} (h : key ∉ columns.keys)
    (hfields : (Json.obj columns.written).fields? names = some fields) :
    fields.lookup key = none := by
  rw [fields?, knownEntries?, mapM_keyed?_written] at hfields
  obtain ⟨heq, -⟩ := Option.filter_eq_some_iff.mp hfields
  cases heq
  rw [List.lookup_eq_none_iff]
  intro e he
  rw [bne_iff_ne]
  rintro rfl
  exact h (key_of_mem_present (List.mem_filter.mp he).1)

variable {α : Type} {decode : Json → Option α} {a : α} {value : Json}

theorem required_present (hkeys : columns.keys.Nodup)
    (hvalue : columns.lookup key = some (some value)) (hread : decode value = some a) :
    columns.present.required key decode = some a := by
  rw [Fields.required, lookup_present hkeys, hvalue]
  exact hread

theorem withDefault_present {default : α} (hkeys : columns.keys.Nodup)
    (hvalue : columns.lookup key = some (some value)) (hread : decode value = some a) :
    columns.present.withDefault key default decode = some a := by
  rw [Fields.withDefault, lookup_present hkeys, hvalue]
  exact hread

/-- A value that may be missing is never written as null, so that it is read as a value. -/
theorem optional_present_map (hkeys : columns.keys.Nodup) {encode : α → Json} (read : α → α)
    {given : Option α} (hvalue : columns.lookup key = some (given.map encode))
    (hread : ∀ a ∈ given, decode (encode a) = some (read a)) (hnull : ∀ a, encode a ≠ .null) :
    columns.present.optional key decode = some (given.map read) := by
  rw [Fields.optional, Fields.withDefault, lookup_present hkeys, hvalue]
  cases given with
  | none => rfl
  | some a =>
    have ha := hread a rfl
    simp only [Option.map_some, Option.join_some]
    rw [nullable?.eq_2 _ _ (hnull a), ha, Option.map_some]

theorem optional_present (hkeys : columns.keys.Nodup) {encode : α → Json} {given : Option α}
    (hvalue : columns.lookup key = some (given.map encode))
    (hread : ∀ a ∈ given, decode (encode a) = some a) (hnull : ∀ a, encode a ≠ .null) :
    columns.present.optional key decode = some given := by
  rw [optional_present_map hkeys id hvalue hread hnull, Option.map_id, id]

theorem nullable_present (hkeys : columns.keys.Nodup) {encode : α → Json} {given : Option α}
    (hvalue : columns.lookup key = some (some (.ofOption encode given)))
    (hread : ∀ a ∈ given, decode (encode a) = some a) (hnull : ∀ a, encode a ≠ .null) :
    columns.present.optional key decode = some given := by
  rw [Fields.optional, Fields.withDefault, lookup_present hkeys, hvalue]
  cases given with
  | none => rfl
  | some a =>
    simp only [ofOption, Option.join_some]
    rw [nullable?.eq_2 _ _ (hnull a), hread a rfl, Option.map_some]

end Columns

theorem uint8?_ofNat (n : UInt8) : uint8? (.ofNat n.toNat) = some n := by
  simp [uint8?, natBelow?, ofNat, UInt8.toNat_lt_size]

theorem uint32?_ofNat (n : UInt32) : uint32? (.ofNat n.toNat) = some n := by
  simp [uint32?, natBelow?, ofNat, UInt32.toNat_lt_size]

theorem uint64?_ofNat (n : UInt64) : uint64? (.ofNat n.toNat) = some n := by
  simp [uint64?, natBelow?, ofNat, UInt64.toNat_lt_size]

theorem int32?_toInt (n : Int32) : int32? (.int n.toInt) = some n := by
  have hlow := n.le_toInt
  have hhigh := n.toInt_lt
  rw [int32?, if_pos (by omega), Int32.ofInt_toInt]

theorem list?_map_map {α : Type} {encode : α → Json} {decode : Json → Option α} (read : α → α)
    {items : List α} (h : ∀ a ∈ items, decode (encode a) = some (read a)) :
    list? decode (.arr (items.map encode)) = some (items.map read) := by
  induction items with
  | nil => rfl
  | cons a as ih =>
    have hrest := ih fun b hb => h b (List.mem_cons_of_mem a hb)
    change (as.map encode).mapM decode = some (as.map read) at hrest
    change ((a :: as).map encode).mapM decode = some ((a :: as).map read)
    rw [List.map_cons, List.mapM_cons, h a List.mem_cons_self, hrest]
    rfl

theorem list?_map {α : Type} {encode : α → Json} {decode : Json → Option α} {items : List α}
    (h : ∀ a ∈ items, decode (encode a) = some a) :
    list? decode (.arr (items.map encode)) = some items := by
  rw [list?_map_map id h, List.map_id]

theorem exists_of_mem_list? {α : Type} {decode : Json → Option α} {j : Json} {items : List α}
    (h : list? decode j = some items) {a : α} (ha : a ∈ items) : ∃ j, decode j = some a := by
  cases j with
  | arr js =>
    change js.mapM decode = some items at h
    induction js generalizing items with
    | nil =>
      cases h
      cases ha
    | cons j js ih =>
      simp only [List.mapM_cons, Option.bind_eq_bind, Option.bind_eq_some_iff] at h
      obtain ⟨b, hb, bs, hbs, heq⟩ := h
      cases heq
      rcases List.mem_cons.mp ha with rfl | ha
      · exact ⟨j, hb⟩
      · exact ih ha hbs
  | _ => cases h

namespace Fields

variable {α : Type} {fields : Fields} {name : String} {decode : Json → Option α} {a : α}

theorem exists_of_required (h : fields.required name decode = some a) : ∃ j, decode j = some a := by
  obtain ⟨j, -, hj⟩ := Option.bind_eq_some_iff.mp h
  exact ⟨j, hj⟩

theorem exists_of_withDefault {default : α} (h : fields.withDefault name default decode = some a) :
    a = default ∨ ∃ j, decode j = some a := by
  unfold withDefault at h
  split at h
  · exact .inl (Option.some.inj h).symm
  · exact .inr ⟨_, h⟩

theorem exists_of_optional (h : fields.optional name decode = some (some a)) :
    ∃ j, decode j = some a := by
  obtain habsent | ⟨j, hj⟩ := exists_of_withDefault h
  · cases habsent
  · unfold nullable? at hj
    split at hj
    · cases hj
    · obtain ⟨b, hb, heq⟩ := Option.map_eq_some_iff.mp hj
      cases heq
      exact ⟨_, hb⟩

end Fields

end CallNotice.Json
