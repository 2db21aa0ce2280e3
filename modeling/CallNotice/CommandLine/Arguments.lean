namespace CallNotice.Arguments

inductive ValueKind
  | text
  | path
  | size
  deriving DecidableEq

inductive OptionKind
  | flag
  | value (kind : ValueKind)
  | help
  | version
  deriving DecidableEq

structure OptionShape where
  long : String
  short : Option Char
  kind : OptionKind
  deriving DecidableEq

structure Shape where
  options : List OptionShape
  operands : List ValueKind
  deriving DecidableEq

inductive Stop
  | misuse
  | help
  | version
  deriving DecidableEq

structure Reading where
  flags : List String
  values : List (String × String)
  operands : List String
  pending : Option OptionShape
  literal : Bool
  deriving DecidableEq

def Reading.empty : Reading := ⟨[], [], [], none, false⟩

def size? (s : String) : Option Nat :=
  let digits := match s.toList with
    | '+' :: rest => rest
    | cs => cs
  if digits ≠ [] ∧ digits.all fun c => '0' ≤ c && c ≤ '9' then
    let n := digits.foldl (fun n c => n * 10 + (c.toNat - '0'.toNat)) 0
    if n < UInt64.size then some n else none
  else none

def ValueKind.fits (kind : ValueKind) (s : String) : Bool :=
  match kind with
  | text => true
  | path => s != ""
  | size => (size? s).isSome

def setFlag (r : Reading) (name : String) : Except Stop Reading :=
  if r.flags.contains name then .error .misuse else .ok { r with flags := r.flags ++ [name] }

def setValue (r : Reading) (option : OptionShape) (value : String) : Except Stop Reading :=
  match option.kind with
  | .value kind =>
    if kind.fits value && !(r.values.map Prod.fst).contains option.long then
      .ok { r with values := r.values ++ [(option.long, value)], pending := none }
    else .error .misuse
  | _ => .error .misuse

def setOption (r : Reading) (option : OptionShape) : Except Stop Reading :=
  match option.kind with
  | .flag => setFlag r option.long
  | .value _ => .ok { r with pending := some option }
  | .help => .error .help
  | .version => .error .version

def addOperand (shape : Shape) (r : Reading) (word : String) : Except Stop Reading :=
  match shape.operands[r.operands.length]? with
  | some kind =>
    if kind.fits word then .ok { r with operands := r.operands ++ [word] } else .error .misuse
  | none => .error .misuse

def readLong (shape : Shape) (r : Reading) (word : List Char) : Except Stop Reading :=
  let name := word.takeWhile (· != '=')
  match shape.options.find? fun o => o.long.toList = name, word.drop name.length with
  | none, _ => .error .misuse
  | some option, [] => setOption r option
  | some option, _ :: value => setValue r option (String.ofList value)

def readShort (shape : Shape) (r : Reading) : List Char → Except Stop Reading
  | [] => .ok r
  | c :: rest =>
    match shape.options.find? fun o => o.short = some c with
    | none => .error .misuse
    | some option =>
      match option.kind, rest with
      | .value _, '=' :: value => setValue r option (String.ofList value)
      | .value _, c :: value => setValue r option (String.ofList (c :: value))
      | _, _ => (setOption r option).bind fun r => readShort shape r rest

def isOption (word : List Char) : Bool :=
  match word with
  | '-' :: _ :: _ => true
  | _ => false

def readWord (shape : Shape) (r : Reading) (word : String) : Except Stop Reading :=
  if r.literal then addOperand shape r word
  else match r.pending, word.toList with
    | some option, cs => if isOption cs then .error .misuse else setValue r option word
    | none, ['-', '-'] => .ok { r with literal := true }
    | none, '-' :: '-' :: name => readLong shape r name
    | none, '-' :: c :: letters => readShort shape r (c :: letters)
    | none, _ => addOperand shape r word

def read (shape : Shape) (words : List String) : Except Stop Reading :=
  (words.foldlM (readWord shape) .empty).bind fun r =>
    if r.pending.isSome || r.operands.length < shape.operands.length then .error .misuse else .ok r

def readUntilOperand (shape : Shape) (r : Reading) : List String →
    Except Stop (Reading × String × List String)
  | [] => .error .misuse
  | word :: rest =>
    if !r.literal && r.pending.isNone && !isOption word.toList then .ok (r, word, rest)
    else (readWord shape r word).bind fun r => readUntilOperand shape r rest

def Reading.hasFlag (r : Reading) (name : String) : Bool := r.flags.contains name

def Reading.value? (r : Reading) (name : String) : Option String := r.values.lookup name

def Reading.operand (r : Reading) (n : Nat) : String := r.operands.getD n ""

end CallNotice.Arguments
