/-!
JSON values as the records of this library need them. Integers are exact. Of any other number only
its being finite as a double is kept, and a string or key that holds half of a surrogate pair has
no text: neither can stand where a record expects a value, but both may stand where it looks away.
-/

namespace CallNotice

/-- A key or string content; `none` where the escapes name no character. -/
abbrev JsonText := Option String

inductive Json
  | null
  | bool (value : Bool)
  | int (value : Int)
  | real (finite : Bool)
  | str (text : JsonText)
  | arr (items : List Json)
  | obj (entries : List (JsonText × Json))

namespace Json

def text (s : String) : Json := .str (some s)

def field (key : String) (value : Json) : List (JsonText × Json) := [(some key, value)]

def field? (key : String) (value : Option Json) : List (JsonText × Json) :=
  match value with
  | none => []
  | some v => [(some key, v)]

def ofNat (n : Nat) : Json := .int n

def ofOption {α : Type} (encode : α → Json) : Option α → Json
  | none => .null
  | some a => encode a

mutual

def height : Json → Nat
  | .arr items => heightItems 0 items + 1
  | .obj entries => heightEntries 0 entries + 1
  | _ => 0

def heightItems (most : Nat) : List Json → Nat
  | [] => most
  | j :: js => heightItems (max most j.height) js

def heightEntries (most : Nat) : List (JsonText × Json) → Nat
  | [] => most
  | (_, j) :: js => heightEntries (max most j.height) js

end

/-- The least magnitude that a double rounds to infinity. -/
def doubleLimit : Nat := Nat.pow 2 1024 - Nat.pow 2 970

def nearestDouble (n : Nat) : Nat :=
  let unit := Nat.pow 2 (n.log2 - 52)
  let low := n / unit
  let rest := 2 * (n % unit)
  (if rest < unit || (rest = unit && low % 2 = 0) then low else low + 1) * unit

/-- How many of the last decimal digits are dropped so that the others fit into a word. -/
def droppedDigits (n : Nat) : Nat :=
  if n < UInt64.size then 0
  else
    let dropped := (Nat.toDigits 10 n).length - 20
    if n / Nat.pow 10 dropped < UInt64.size then dropped else dropped + 1

/-- Whether `digits · 10 ^ scale` is finite as a double. The leading digits and the power are
rounded before they are multiplied. -/
def isFinite (digits : Nat) (scale : Int) : Bool :=
  let dropped := droppedDigits digits
  let scale := scale + dropped
  digits = 0 || scale ≤ 0 || (scale ≤ 308 &&
    nearestDouble (digits / Nat.pow 10 dropped) * nearestDouble (Nat.pow 10 scale.toNat) <
      doubleLimit)

mutual

def isSound : Json → Bool
  | .int i => isFinite i.natAbs 0
  | .real finite => finite
  | .str t => t.isSome
  | .arr items => areSound items
  | .obj entries => entriesSound entries
  | _ => true

def areSound : List Json → Bool
  | [] => true
  | j :: js => j.isSound && areSound js

def entriesSound : List (JsonText × Json) → Bool
  | [] => true
  | (k, j) :: js => k.isSome && j.isSound && entriesSound js

end

end Json

end CallNotice
