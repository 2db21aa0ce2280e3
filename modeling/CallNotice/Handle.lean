import CallNotice.Json.Fields
import CallNotice.Text.Blank

/-!
Handles say whom a call comes from: an address, with a scheme such as `tel` or `sip` in front if the
text has one. A scheme is a letter followed by letters, digits, `+`, `.` and `-`, its case does not
matter, and the address behind it has no line feed; any other text is an address as a whole.
-/

namespace CallNotice

structure Handle where
  scheme : Option String
  address : String
  deriving DecidableEq

namespace Handle

def isLetter (c : Char) : Bool := ('a' ≤ c && c ≤ 'z') || ('A' ≤ c && c ≤ 'Z')

def isSchemeChar (c : Char) : Bool :=
  isLetter c || ('0' ≤ c && c ≤ '9') || c = '+' || c = '.' || c = '-'

def isScheme : List Char → Bool
  | [] => false
  | c :: cs => isLetter c && cs.all isSchemeChar

def lower (cs : List Char) : List Char := cs.map Char.toLower

def split? (cs : List Char) : Option (List Char × List Char) :=
  let scheme := cs.takeWhile (· != ':')
  match cs.drop scheme.length with
  | _ :: address => if isScheme scheme && !address.contains '\n' then some (scheme, address) else none
  | [] => none

def ofChars (cs : List Char) : Handle :=
  match split? cs with
  | some (scheme, address) => ⟨some (String.ofList (lower scheme)), String.ofList address⟩
  | none => ⟨none, String.ofList cs⟩

def ofText (s : String) : Handle := ofChars (Text.trimChars s.toList)

/-- Puts a handle together without looking at the parts. -/
def ofParts (scheme address : String) : Handle := ⟨some (String.ofList (lower scheme.toList)), address⟩

def withScheme (scheme : Option String) (address : String) : String :=
  match scheme with
  | some scheme => scheme ++ ":" ++ address
  | none => address

def toText (h : Handle) : String := withScheme h.scheme h.address

def isEmpty (h : Handle) : Bool := Text.isBlankText h.address

def masked (cs : List Char) : List Char :=
  if cs.length ≤ 2 then List.replicate cs.length '*'
  else List.replicate (cs.length - 2) '*' ++ cs.drop (cs.length - 2)

def redacted (h : Handle) : String :=
  withScheme h.scheme (String.ofList (masked h.address.toList))

def none : Handle := ⟨.none, ""⟩

def toJson (h : Handle) : Json := .text h.toText

def ofJson? (j : Json) : Option Handle := j.string?.map ofText

end Handle

end CallNotice
