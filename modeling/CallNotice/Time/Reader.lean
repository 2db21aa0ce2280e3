import CallNotice.Text.Blank
import CallNotice.Time.Timestamp

/-!
Reading moments. Blanks may stand before every number, before the separators inside date and time,
and before and after the offset; numbers may have fewer digits than their field; the fraction may
have any number of digits, of which nine count. The offset must be there.
-/

namespace CallNotice.Timestamp

open Text (isBlank trimStart)

def isDigit (c : Char) : Bool := '0' ≤ c && c ≤ '9'

def digitValue (c : Char) : Nat := c.toNat - '0'.toNat

def digitsValue (ds : List Char) : Nat := ds.foldl (fun n c => n * 10 + digitValue c) 0

def digits (most : Nat) (cs : List Char) : List Char × List Char :=
  let ds := (cs.take most).takeWhile isDigit
  (ds, cs.drop ds.length)

def number? (most : Nat) (cs : List Char) : Option (Nat × List Char) :=
  match digits most cs with
  | ([], _) => none
  | (ds, rest) => some (digitsValue ds, rest)

/-- A year of up to four digits, or with a sign and any number of digits. -/
def year? (cs : List Char) : Option (Int × List Char) :=
  match trimStart cs with
  | '-' :: cs => (number? cs.length cs).map fun (n, rest) => (-(n : Int), rest)
  | '+' :: cs => (number? cs.length cs).map fun (n, rest) => ((n : Int), rest)
  | cs => (number? 4 cs).map fun (n, rest) => ((n : Int), rest)

def part? (least greatest : Nat) (cs : List Char) : Option (Nat × List Char) :=
  (number? 2 (trimStart cs)).filter fun (n, _) => least ≤ n && n ≤ greatest

def separator? (mark : Char) (cs : List Char) : Option (List Char) :=
  match trimStart cs with
  | c :: rest => if c = mark then some rest else none
  | [] => none

def date? (cs : List Char) : Option (Date × List Char) := do
  let (year, cs) ← year? cs
  let cs ← separator? '-' cs
  let (month, cs) ← part? 1 12 cs
  let cs ← separator? '-' cs
  let (day, cs) ← part? 1 31 cs
  let date ← Date.of? year month day
  return (date, cs)

def fraction? : List Char → Option (Nat × List Char)
  | '.' :: cs =>
    match digits 9 cs with
    | ([], _) => none
    | (ds, rest) => some (digitsValue ds * Nat.pow 10 (9 - ds.length), rest.dropWhile isDigit)
  | cs => some (0, cs)

def clock? (date : Date) (cs : List Char) : Option (Timestamp × List Char) := do
  let (hour, cs) ← part? 0 23 cs
  let cs ← separator? ':' cs
  let (minute, cs) ← part? 0 59 cs
  let cs ← separator? ':' cs
  let (second, cs) ← part? 0 60 cs
  let (nanos, cs) ← fraction? cs
  let t ← of? date hour minute second nanos
  return (t, cs)

def twoDigits? : List Char → Option (Nat × List Char)
  | a :: b :: rest =>
    if isDigit a && isDigit b then some (digitsValue [a, b], rest) else none
  | _ => none

/-- Hours and minutes of an offset, in minutes. Colons and blanks between them count for nothing. -/
def offsetSize? (cs : List Char) : Option (Nat × List Char) := do
  let (hours, cs) ← twoDigits? cs
  let (minutes, cs) ← twoDigits? (cs.dropWhile fun c => c = ':' || isBlank c)
  if minutes < 60 ∧ hours < 24 then return (hours * 60 + minutes, cs) else none

def isUtcName (cs : List Char) : Bool := (cs.take 3).map Char.toUpper = ['U', 'T', 'C']

def offset? (cs : List Char) : Option (Int × List Char) :=
  if isUtcName cs then some (0, cs.drop 3)
  else match cs with
    | c :: rest =>
      if c = 'Z' || c = 'z' then some (0, rest)
      else if c = '+' then (offsetSize? rest).map fun (n, rest) => ((n : Int), rest)
      else if c = '-' || c = '−' then (offsetSize? rest).map fun (n, rest) => (-(n : Int), rest)
      else none
    | [] => none

def joint? : List Char → Option (List Char)
  | c :: rest => if c = 't' || c = 'T' || c = ' ' then some rest else none
  | [] => none

def ofChars? (cs : List Char) : Option Timestamp := do
  let (date, cs) ← date? cs
  let cs ← joint? cs
  let (t, cs) ← clock? date cs
  let (ahead, cs) ← offset? (trimStart cs)
  if trimStart cs = [] then t.earlierBy? ahead else none

def ofText? (s : String) : Option Timestamp := ofChars? s.toList

end CallNotice.Timestamp
