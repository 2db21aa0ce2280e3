import CallNotice.Text.Lines

namespace CallNotice.Path

def segments (path : String) : List String :=
  (Text.splitAtMarks '/' path.toList).map String.ofList

def isAbsolute (path : String) : Bool := path.toList.head? = some '/'

def isHere (segment : String) : Bool := segment = "" || segment = "."

def names (path : String) : List String := (segments path).filter fun s => !isHere s

def namesDirectory (path : String) : Bool :=
  match (segments path).getLast? with
  | some last => isHere last || last = ".."
  | none => false

def enter (place : List String) (name : String) : List String :=
  if name = ".." then place.dropLast else place ++ [name]

def origin (start : List String) (path : String) : List String :=
  if isAbsolute path then [] else start

def place (start : List String) (path : String) : List String :=
  (names path).foldl enter (origin start path)

def passed (place : List String) : List String → List (List String)
  | [] => [place]
  | name :: rest => place :: passed (enter place name) rest

/-- The places that a path passes, the one that it names last. -/
def way (start : List String) (path : String) : List (List String) :=
  passed (origin start path) (names path)

def isWellFormed (path : String) : Bool :=
  path != "" && path.utf8ByteSize < 4096 && !path.toList.contains '\x00'

def nameFits (name : String) : Bool := name.utf8ByteSize < 256

def fits (path : String) : Bool := isWellFormed path && (names path).all nameFits

def ofNames (absolute : Bool) (names : List String) : String :=
  (if absolute then "/" else "") ++ "/".intercalate names

def parent? (path : String) : Option String :=
  match (segments path).reverse.dropWhile isHere with
  | [] => if path = "" || isAbsolute path then none else some ""
  | _ :: before =>
    match (before.dropWhile isHere).reverse with
    | [] => some (if isAbsolute path then "/" else "")
    | kept => some ("/".intercalate kept)

def join (base name : String) : String :=
  if base = "" then name
  else if base.toList.getLast? = some '/' then base ++ name
  else base ++ "/" ++ name

def stem (name : String) : String :=
  let cs := name.toList
  let behind := cs.reverse.takeWhile (· != '.')
  if behind.length + 1 < cs.length then String.ofList (cs.take (cs.length - behind.length - 1)) else name

/-- A name with another extension. Of two dots and a word the word goes first; the two dots that
are left name the directory above, which takes no extension. -/
def nameWithExtension (extension name : String) : String :=
  if stem name = "." then ".." else stem name ++ "." ++ extension

def withExtension (extension path : String) : String :=
  match (names path).getLast? with
  | none => path
  | some name =>
    ofNames (isAbsolute path) ((names path).dropLast ++ [nameWithExtension extension name])

def lockFile (path : String) : String := path ++ ".lock"

/-- The file that takes new content before it replaces the file at `path`. -/
def spareFile (path : String) : String := withExtension "tmp" path

end CallNotice.Path
