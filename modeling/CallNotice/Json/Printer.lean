import CallNotice.Json.Token

namespace CallNotice.Json

mutual

def tokensBefore (rest : List Token) : Json → List Token
  | .null => .null :: rest
  | .bool b => .bool b :: rest
  | .int i => .int i :: rest
  | .real finite => .real finite :: rest
  | .str t => .str t :: rest
  | .arr items => .openArr :: itemTokens (.closeArr :: rest) items
  | .obj entries => .openObj :: entryTokens (.closeObj :: rest) entries

def itemTokens (rest : List Token) : List Json → List Token
  | [] => rest
  | [j] => tokensBefore rest j
  | j :: k :: js => tokensBefore (.comma :: itemTokens rest (k :: js)) j

def entryTokens (rest : List Token) : List (JsonText × Json) → List Token
  | [] => rest
  | [(k, j)] => .str k :: .colon :: tokensBefore rest j
  | (k, j) :: e :: es =>
    .str k :: .colon :: tokensBefore (.comma :: entryTokens rest (e :: es)) j

end

def tokens (j : Json) : List Token := tokensBefore [] j

def hexPair (n : Nat) : List Char := [Nat.digitChar (n / 16), Nat.digitChar (n % 16)]

def escapedChar (c : Char) : List Char :=
  if c = '"' then ['\\', '"']
  else if c = '\\' then ['\\', '\\']
  else if c = '\x08' then ['\\', 'b']
  else if c = '\x0c' then ['\\', 'f']
  else if c = '\n' then ['\\', 'n']
  else if c = '\r' then ['\\', 'r']
  else if c = '\t' then ['\\', 't']
  else if c.toNat < 0x20 then ['\\', 'u', '0', '0'] ++ hexPair c.toNat
  else [c]

def stringChars (s : String) : List Char := '"' :: s.toList.flatMap escapedChar ++ ['"']

def intChars : Int → List Char
  | .ofNat n => Nat.toDigits 10 n
  | .negSucc n => '-' :: Nat.toDigits 10 (n + 1)

namespace Token

/-- A token as text. A string without a text is written as half a pair, a number that is no integer
as the smallest of its kind. -/
def chars : Token → List Char
  | .openArr => ['[']
  | .closeArr => [']']
  | .openObj => ['\x7b']
  | .closeObj => ['\x7d']
  | .comma => [',']
  | .colon => [':']
  | .null => ['n', 'u', 'l', 'l']
  | .bool true => ['t', 'r', 'u', 'e']
  | .bool false => ['f', 'a', 'l', 's', 'e']
  | .int i => intChars i
  | .real true => ['-', '0']
  | .real false => ['1', 'e', '9', '9', '9']
  | .str (some s) => stringChars s
  | .str none => ['"', '\\', 'u', 'd', '8', '0', '0', '"']

def isOpening (t : Token) : Bool := t = .openArr || t = .openObj

def isClosing (t : Token) : Bool := t = .closeArr || t = .closeObj

end Token

def compact (j : Json) : String := String.ofList (j.tokens.flatMap Token.chars)

def newline (depth : Nat) : List Char := '\n' :: List.replicate (2 * depth) ' '

def gap (depth : Nat) (t next : Token) : List Char :=
  if t.isOpening then if next.isClosing then [] else newline depth
  else if next.isClosing then newline (depth - 1)
  else if t = .comma then newline depth
  else if t = .colon then [' ']
  else []

def indentedChars (depth : Nat) : List Token → List Char
  | [] => []
  | [t] => t.chars
  | t :: next :: ts =>
    let inside := if t.isOpening then depth + 1 else if t.isClosing then depth - 1 else depth
    t.chars ++ gap inside t next ++ indentedChars inside (next :: ts)

def indented (j : Json) : String := String.ofList (indentedChars 0 j.tokens)

end CallNotice.Json
