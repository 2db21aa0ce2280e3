import CallNotice.Text.Alphabetic

namespace CallNotice

inductive Direction
  | leftToRight
  | rightToLeft
  deriving DecidableEq

namespace Bidi

def leftMark : Char := '\u200E'

def rightMark : Char := '\u200F'

def leftEmbedding : Char := '\u202A'

def popEmbedding : Char := '\u202C'

def rightToLeftRanges : Text.CodeRanges := [
  (0x590, 0x8FF), (0xFB1D, 0xFDFF), (0xFE70, 0xFEFF), (0x10800, 0x10FFF), (0x1E800, 0x1EFFF)]

def strong? (c : Char) : Option Direction :=
  if rightToLeftRanges.holds c then some .rightToLeft
  else if Text.isAlphabetic c then some .leftToRight
  else none

def firstStrong? (cs : List Char) : Option Direction := cs.findSome? strong?

def lastStrong? (cs : List Char) : Option Direction := cs.reverse.findSome? strong?

def markFor (side : Option Direction) : List Char :=
  if side = some .rightToLeft then [leftMark] else []

def wrapChars (rightToLeft : Bool) (cs : List Char) : List Char :=
  if cs = [] then []
  else if rightToLeft then [rightMark, leftEmbedding] ++ cs ++ [popEmbedding, rightMark]
  else markFor (firstStrong? cs) ++ cs ++ markFor (lastStrong? cs)

def wrap (rightToLeft : Bool) (s : String) : String :=
  String.ofList (wrapChars rightToLeft s.toList)

end Bidi

end CallNotice
