import CallNotice.Json.Basic

/-!
The tokens of JSON text and the machine that finds them. The machine takes one character at a
time; what it is in the middle of is a `Scan`. A token that is not closed by its own last character
ends at the first character that cannot belong to it.
-/

namespace CallNotice.Json

inductive Token
  | openArr
  | closeArr
  | openObj
  | closeObj
  | comma
  | colon
  | null
  | bool (value : Bool)
  | int (value : Int)
  | real (finite : Bool)
  | str (text : JsonText)
  deriving DecidableEq

inductive Phase
  | sign | zero | whole | point | fraction | mark | markSign | exponent
  deriving DecidableEq

structure Numeral where
  negative : Bool
  digits : Nat
  places : Nat
  shrinks : Bool
  exponent : Nat
  phase : Phase
  deriving DecidableEq

namespace Numeral

def start (negative : Bool) (digits : Nat) (phase : Phase) : Numeral :=
  ⟨negative, digits, 0, false, 0, phase⟩

def scale (n : Numeral) : Int :=
  (if n.shrinks then -(n.exponent : Int) else n.exponent) - n.places

def isWhole (n : Numeral) : Bool := n.phase = .zero || n.phase = .whole

/-- The token of a complete number. Minus zero is no integer. -/
def token? (n : Numeral) : Option Token :=
  if n.isWhole then
    if n.negative then
      some (if n.digits = 0 then .real true else .int (-(n.digits : Int)))
    else some (.int n.digits)
  else if n.phase = .fraction || n.phase = .exponent then
    some (.real (isFinite n.digits n.scale))
  else none

def digit (n : Numeral) (d : Nat) : Option Numeral :=
  match n.phase with
  | .sign => some { n with digits := d, phase := if d = 0 then .zero else .whole }
  | .zero => none
  | .whole => some { n with digits := n.digits * 10 + d }
  | .point | .fraction =>
    some { n with digits := n.digits * 10 + d, places := n.places + 1, phase := .fraction }
  | .mark | .markSign | .exponent =>
    some { n with exponent := n.exponent * 10 + d, phase := .exponent }

end Numeral

/-- The inside of a string: characters read so far, last first; whether all of them had a text; a
first half of a surrogate pair that waits for the second; and how far an escape has come. -/
structure Content where
  read : List Char
  sound : Bool
  half : Option Nat
  escape : Option (Option (Nat × Nat))
  deriving DecidableEq

namespace Content

def empty : Content := ⟨[], true, none, none⟩

def hexDigit? (c : Char) : Option Nat :=
  if '0' ≤ c ∧ c ≤ '9' then some (c.toNat - '0'.toNat)
  else if 'a' ≤ c ∧ c ≤ 'f' then some (c.toNat - 'a'.toNat + 10)
  else if 'A' ≤ c ∧ c ≤ 'F' then some (c.toNat - 'A'.toNat + 10)
  else none

def push (s : Content) (c : Char) : Content :=
  ⟨c :: s.read, s.sound && s.half.isNone, none, none⟩

def isHigh (u : Nat) : Bool := 0xD800 ≤ u && u < 0xDC00

def isLow (u : Nat) : Bool := 0xDC00 ≤ u && u < 0xE000

def pushUnit (s : Content) (u : Nat) : Content :=
  if isLow u then
    match s.half with
    | some h =>
      ⟨Char.ofNat (0x10000 + (h - 0xD800) * 0x400 + (u - 0xDC00)) :: s.read, s.sound, none, none⟩
    | none => ⟨s.read, false, none, none⟩
  else if isHigh u then ⟨s.read, s.sound && s.half.isNone, some u, none⟩
  else s.push (Char.ofNat u)

def escaped? (c : Char) : Option Char :=
  if c = '"' then some '"'
  else if c = '\\' then some '\\'
  else if c = '/' then some '/'
  else if c = 'b' then some '\x08'
  else if c = 'f' then some '\x0c'
  else if c = 'n' then some '\n'
  else if c = 'r' then some '\r'
  else if c = 't' then some '\t'
  else none

def step (s : Content) (c : Char) : Option Content :=
  match s.escape with
  | none =>
    if c = '\\' then some { s with escape := some none }
    else if c.toNat < 0x20 then none
    else some (s.push c)
  | some none =>
    if c = 'u' then some { s with escape := some (some (0, 0)) }
    else (escaped? c).map s.push
  | some (some (seen, value)) =>
    (hexDigit? c).map fun d =>
      if seen = 3 then s.pushUnit (value * 16 + d)
      else { s with escape := some (some (seen + 1, value * 16 + d)) }

def closes (s : Content) (c : Char) : Bool := c = '"' && s.escape.isNone

def text (s : Content) : JsonText :=
  if s.sound && s.half.isNone then some (String.ofList s.read.reverse) else none

end Content

inductive Scan
  | between
  | word (read : List Char)
  | number (n : Numeral)
  | string (s : Content)
  deriving DecidableEq

structure Lexer where
  found : List Token
  scan : Scan

namespace Lexer

def isSpace (c : Char) : Bool := c = ' ' || c = '\t' || c = '\n' || c = '\r'

def isLetter (c : Char) : Bool := 'a' ≤ c && c ≤ 'z'

def isDigit (c : Char) : Bool := '0' ≤ c && c ≤ '9'

def digitValue (c : Char) : Nat := c.toNat - '0'.toNat

def mark? (c : Char) : Option Token :=
  if c = '[' then some .openArr
  else if c = ']' then some .closeArr
  else if c = '\x7b' then some .openObj
  else if c = '\x7d' then some .closeObj
  else if c = ',' then some .comma
  else if c = ':' then some .colon
  else none

def word? (read : List Char) : Option Token :=
  if read = ['l', 'l', 'u', 'n'] then some .null
  else if read = ['e', 'u', 'r', 't'] then some (.bool true)
  else if read = ['e', 's', 'l', 'a', 'f'] then some (.bool false)
  else none

def begin (found : List Token) (c : Char) : Option Lexer :=
  if isSpace c then some ⟨found, .between⟩
  else if c = '"' then some ⟨found, .string .empty⟩
  else if c = '-' then some ⟨found, .number (.start true 0 .sign)⟩
  else if c = '0' then some ⟨found, .number (.start false 0 .zero)⟩
  else if isDigit c then some ⟨found, .number (.start false (digitValue c) .whole)⟩
  else if isLetter c then some ⟨found, .word [c]⟩
  else (mark? c).map fun t => ⟨t :: found, .between⟩

def settle (l : Lexer) : Option (List Token) :=
  match l.scan with
  | .between => some l.found
  | .word read => (word? read).map (· :: l.found)
  | .number n => n.token?.map (· :: l.found)
  | .string _ => none

def numberStep (n : Numeral) (c : Char) : Option (Option Numeral) :=
  if isDigit c then some (n.digit (digitValue c))
  else if c = '.' && n.isWhole then some (some { n with phase := .point })
  else if (c = 'e' || c = 'E') && (n.isWhole || n.phase = .fraction) then
    some (some { n with phase := .mark })
  else if (c = '+' || c = '-') && n.phase = .mark then
    some (some { n with phase := .markSign, shrinks := c = '-' })
  else none

def step (l : Lexer) (c : Char) : Option Lexer :=
  match l.scan with
  | .between => begin l.found c
  | .word read =>
    if isLetter c then some ⟨l.found, .word (c :: read)⟩
    else l.settle.bind (begin · c)
  | .number n =>
    match numberStep n c with
    | some next => next.map fun n => ⟨l.found, .number n⟩
    | none => l.settle.bind (begin · c)
  | .string s =>
    if s.closes c then some ⟨.str s.text :: l.found, .between⟩
    else (s.step c).map fun s => ⟨l.found, .string s⟩

end Lexer

def tokens? (cs : List Char) : Option (List Token) :=
  (cs.foldlM Lexer.step ⟨[], .between⟩).bind fun l => l.settle.map List.reverse

end CallNotice.Json
