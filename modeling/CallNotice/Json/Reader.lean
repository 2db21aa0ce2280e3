import CallNotice.Json.Token

namespace CallNotice.Json

/-- A container that is still open, what it holds so far last first. -/
inductive Frame
  | array (done : List Json)
  | object (done : List (JsonText × Json)) (key : JsonText)

inductive Reader
  | value (stack : List Frame)
  | first (stack : List Frame)
  | key (opening : Bool) (done : List (JsonText × Json)) (stack : List Frame)
  | colon (done : List (JsonText × Json)) (key : JsonText) (stack : List Frame)
  | after (stack : List Frame) (value : Json)

namespace Reader

def scalar? : Token → Option Json
  | .null => some .null
  | .bool b => some (.bool b)
  | .int i => some (.int i)
  | .real finite => some (.real finite)
  | .str t => some (.str t)
  | _ => none

def feedValue (stack : List Frame) : Token → Option Reader
  | .openArr => some (.first stack)
  | .openObj => some (.key true [] stack)
  | t => (scalar? t).map (.after stack)

def feed : Reader → Token → Option Reader
  | .value stack, t => feedValue stack t
  | .first stack, .closeArr => some (.after stack (.arr []))
  | .first stack, t => feedValue (.array [] :: stack) t
  | .key _ done stack, .str k => some (.colon done k stack)
  | .key true done stack, .closeObj => some (.after stack (.obj done.reverse))
  | .colon done k stack, .colon => some (.value (.object done k :: stack))
  | .after (.array done :: stack) j, .comma => some (.value (.array (j :: done) :: stack))
  | .after (.array done :: stack) j, .closeArr => some (.after stack (.arr (j :: done).reverse))
  | .after (.object done k :: stack) j, .comma => some (.key false ((k, j) :: done) stack)
  | .after (.object done k :: stack) j, .closeObj =>
    some (.after stack (.obj ((k, j) :: done).reverse))
  | _, _ => none

def finished? : Reader → Option Json
  | .after [] j => some j
  | _ => none

end Reader

def ofTokens? (ts : List Token) : Option Json :=
  (ts.foldlM Reader.feed (.value [])).bind Reader.finished?

def parse? (s : String) : Option Json := (tokens? s.toList).bind ofTokens?

end CallNotice.Json
