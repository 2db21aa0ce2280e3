import CallNotice.Json.Fields

namespace CallNotice

structure Bitmap where
  width : UInt32
  height : UInt32
  pixels : List UInt8
  deriving DecidableEq

inductive Photo
  | bitmap (bitmap : Bitmap)
  | vector (resource : String)
  deriving DecidableEq

namespace Bitmap

def toJson (b : Bitmap) : Json :=
  .obj <| Json.field "width" (.ofNat b.width.toNat) ++ Json.field "height" (.ofNat b.height.toNat) ++
    Json.field "pixels" (.arr (b.pixels.map fun p => .ofNat p.toNat))

def ofJson? (j : Json) : Option Bitmap := do
  let fields ← j.fields? ["width", "height", "pixels"]
  let width ← fields.required "width" Json.uint32?
  let height ← fields.required "height" Json.uint32?
  let pixels ← fields.withDefault "pixels" [] (Json.list? Json.uint8?)
  return { width, height, pixels }

end Bitmap

namespace Photo

def bitmap? : Photo → Option Bitmap
  | .bitmap b => some b
  | .vector _ => none

def toJson : Photo → Json
  | .bitmap b => .obj <| Json.field "kind" (.text "bitmap") ++ Json.field "bitmap" b.toJson
  | .vector r => .obj <| Json.field "kind" (.text "vector") ++ Json.field "resource" (.text r)

/-- The kind and what stands beside it: the other entries of an object, or the other items of an
array whose first item is the kind. -/
def untag? : Json → Option (String × Json)
  | .arr (kind :: items) => kind.string?.map fun kind => (kind, .arr items)
  | .obj entries => do
    let (tags, others) := entries.partition fun (k, _) => k = some "kind"
    match tags with
    | [(_, kind)] => kind.string?.map fun kind => (kind, .obj others)
    | _ => none
  | _ => none

def ofContent? (kind : String) (content : Json) : Option Photo :=
  if kind = "bitmap" then do
    let fields ← content.fields? ["bitmap"]
    let bitmap ← fields.required "bitmap" Bitmap.ofJson?
    return .bitmap bitmap
  else if kind = "vector" then do
    let fields ← content.fields? ["resource"]
    let resource ← fields.required "resource" Json.string?
    return .vector resource
  else none

/-- A photo is held whole before its kind is known. So all of it must be sound, passed over parts
included, and it may hold no more than `room` containers inside one another. -/
def ofJson? (room : Nat) (j : Json) : Option Photo :=
  if j.isSound && j.height ≤ room then
    (untag? j).bind fun (kind, content) => ofContent? kind content
  else none

end Photo

end CallNotice
