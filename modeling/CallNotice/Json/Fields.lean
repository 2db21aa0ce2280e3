import CallNotice.Json.Basic

/-!
Reading typed values out of JSON. A record is an object, in which unknown keys are passed over and
known ones stand at most once, or an array of its fields in order, in which the last ones may be
missing. A field that is missing has its default, or else the record cannot be read.
-/

namespace CallNotice.Json

def bool? : Json → Option Bool
  | .bool b => some b
  | _ => none

def string? : Json → Option String
  | .str t => t
  | _ => none

def natBelow? (size : Nat) : Json → Option Nat
  | .int (.ofNat n) => if n < size then some n else none
  | _ => none

def uint8? (j : Json) : Option UInt8 := (j.natBelow? UInt8.size).map .ofNat

def uint32? (j : Json) : Option UInt32 := (j.natBelow? UInt32.size).map .ofNat

def uint64? (j : Json) : Option UInt64 := (j.natBelow? UInt64.size).map .ofNat

def int32? : Json → Option Int32
  | .int i => if -2147483648 ≤ i ∧ i ≤ 2147483647 then some (.ofInt i) else none
  | _ => none

def nullable? {α : Type} (decode : Json → Option α) : Json → Option (Option α)
  | .null => some none
  | j => (decode j).map some

def list? {α : Type} (decode : Json → Option α) : Json → Option (List α)
  | .arr items => items.mapM decode
  | _ => none

/-- A named case, alone or as the only key of an object that holds its content. -/
def case? : Json → Option (String × Option Json)
  | .str (some name) => some (name, none)
  | .obj [(some name, content)] => some (name, some content)
  | _ => none

def choice? {α : Type} (names : List (String × α)) (j : Json) : Option α :=
  match j.case? with
  | some (name, none) => names.lookup name
  | some (name, some .null) => names.lookup name
  | _ => none

abbrev Fields := List (String × Json)

def Fields.areDistinct : Fields → Bool
  | [] => true
  | (k, _) :: rest => rest.all (·.1 != k) && areDistinct rest

def keyed? (entry : JsonText × Json) : Option (String × Json) := entry.1.map fun k => (k, entry.2)

/-- The entries with a known key. A key without a text cannot be told from a known one. -/
def knownEntries? (names : List String) (entries : List (JsonText × Json)) : Option Fields :=
  (entries.mapM keyed?).map fun fields => fields.filter fun (k, _) => names.contains k

def fields? (names : List String) : Json → Option Fields
  | .obj entries => (knownEntries? names entries).filter Fields.areDistinct
  | .arr items => if items.length ≤ names.length then some (names.zip items) else none
  | _ => none

namespace Fields

variable {α : Type}

def required (fields : Fields) (name : String) (decode : Json → Option α) : Option α :=
  (fields.lookup name).bind decode

def withDefault (fields : Fields) (name : String) (default : α) (decode : Json → Option α) :
    Option α :=
  match fields.lookup name with
  | none => some default
  | some j => decode j

def optional (fields : Fields) (name : String) (decode : Json → Option α) : Option (Option α) :=
  fields.withDefault name none (nullable? decode)

end Fields

end CallNotice.Json
