import CallNotice.Fault
import CallNotice.Files.Path

/-!
A file system as a value: a finite map from places to files and directories. Each operation either
is refused and changes nothing, or gives the next file system. What may be opened can be read and
written; a write that breaks off halfway is left out.
-/

namespace CallNotice

inductive Node
  | directory
  | file (content : ByteArray)

instance : DecidableEq Node
  | .directory, .directory => .isTrue rfl
  | .directory, .file _ => .isFalse nofun
  | .file _, .directory => .isFalse nofun
  | .file a, .file b =>
    if h : a.data = b.data then .isTrue (congrArg Node.file (ByteArray.ext h))
    else .isFalse fun e => h (congrArg ByteArray.data (Node.file.inj e))

structure Files where
  /-- The current directory. -/
  here : List String
  /-- Places where the system lets nobody open or make anything. -/
  barred : List (List String)
  nodes : List (List String × Node)
  deriving DecidableEq

namespace Files

def refusal : Fault := .refused none

def blank (here : List String) : Files :=
  ⟨here, [], (List.range here.length).map fun n => (here.take (n + 1), .directory)⟩

def node? (fs : Files) (place : List String) : Option Node :=
  if place = [] then some .directory else fs.nodes.lookup place

def bar (fs : Files) (place : List String) : Files := { fs with barred := place :: fs.barred }

def put (fs : Files) (place : List String) (node : Node) : Files :=
  { fs with nodes := (place, node) :: fs.nodes.filter fun e => e.1 ≠ place }

def erase (fs : Files) (place : List String) : Files :=
  { fs with nodes := fs.nodes.filter fun e => e.1 ≠ place }

theorem lookup_filter_ne {α β : Type} [BEq α] [LawfulBEq α] [DecidableEq α] (p q : α)
    (entries : List (α × β)) :
    (entries.filter fun e => e.1 ≠ p).lookup q = if q = p then none else entries.lookup q := by
  induction entries with
  | nil => simp
  | cons e rest ih =>
    obtain ⟨k, b⟩ := e
    by_cases hk : k = p
    · simp only [List.filter_cons, hk, ne_eq, not_true_eq_false, decide_false, Bool.false_eq_true,
        if_false, ih, List.lookup_cons]
      by_cases hq : q = p <;> simp [hq, beq_false_of_ne]
    · simp only [List.filter_cons, hk, ne_eq, not_false_eq_true, decide_true, if_true,
        List.lookup_cons, ih]
      by_cases hq : q = k <;> simp [hq, hk, beq_false_of_ne]

theorem node?_put (fs : Files) (p q : List String) (node : Node) (h : p ≠ []) :
    (fs.put p node).node? q = if q = p then some node else fs.node? q := by
  by_cases hq : q = p
  · simp [node?, put, h, hq]
  · simp only [node?, put, List.lookup_cons, beq_false_of_ne hq, lookup_filter_ne, hq, if_false]

theorem node?_erase (fs : Files) (p q : List String) (h : p ≠ []) :
    (fs.erase p).node? q = if q = p then none else fs.node? q := by
  by_cases hq : q = p
  · simp only [node?, erase, lookup_filter_ne, hq, h, if_true, if_false]
  · simp only [node?, erase, lookup_filter_ne, hq, if_false]

def place (fs : Files) (path : String) : List String := Path.place fs.here path

def way (fs : Files) (path : String) : List (List String) := Path.way fs.here path

def isDirectory (fs : Files) (place : List String) : Bool := fs.node? place = some .directory

def isFile (fs : Files) (place : List String) : Bool :=
  match fs.node? place with
  | some (.file _) => true
  | _ => false

def isBarred (fs : Files) (place : List String) : Bool := fs.barred.contains place

def leads (fs : Files) (path : String) : Bool :=
  Path.fits path && (fs.way path).dropLast.all fs.isDirectory

def at? (fs : Files) (path : String) : Option Node :=
  if fs.leads path then
    match fs.node? (fs.place path) with
    | some (.file content) => if Path.namesDirectory path then none else some (.file content)
    | found => found
  else none

def holds (fs : Files) (path : String) : Bool := (fs.at? path).isSome

/-- What can be opened at a path to be read. A directory opens like a file. -/
def opened? (fs : Files) (path : String) : Option Node :=
  if fs.isBarred (fs.place path) then none else fs.at? path

def openToRead (fs : Files) (path : String) : Except Fault Files :=
  if (fs.opened? path).isSome then .ok fs else .error refusal

def content? (fs : Files) (path : String) : Option ByteArray :=
  match fs.opened? path with
  | some (.file content) => some content
  | _ => none

def makeDirectory (fs : Files) (place : List String) : Except Fault Files :=
  if fs.isDirectory place then .ok fs
  else if !fs.isFile place && !fs.isBarred place && place.getLast?.all Path.nameFits then
    .ok (fs.put place .directory)
  else .error refusal

def admits (fs : Files) (path : String) : Bool :=
  fs.leads path && !Path.namesDirectory path && !fs.isDirectory (fs.place path) &&
    !fs.isBarred (fs.place path)

def touch (fs : Files) (path : String) : Except Fault Files :=
  if fs.admits path then
    .ok (if fs.isFile (fs.place path) then fs else fs.put (fs.place path) (.file .empty))
  else .error refusal

def write (fs : Files) (path : String) (content : ByteArray) : Except Fault Files :=
  if fs.admits path then .ok (fs.put (fs.place path) (.file content)) else .error refusal

def append (fs : Files) (path : String) (content : ByteArray) : Except Fault Files :=
  fs.write path ((fs.content? path).getD .empty ++ content)

def rename (fs : Files) (source target : String) : Except Fault Files :=
  match fs.content? source with
  | some content =>
    if fs.place source = fs.place target then .ok fs
    else (fs.write target content).map fun fs => fs.erase (fs.place source)
  | none => .error refusal

def remove (fs : Files) (path : String) : Except Fault Files :=
  match fs.content? path with
  | some _ => .ok (fs.erase (fs.place path))
  | none => .error refusal

def readText (fs : Files) (path : String) : Except Fault String :=
  match (fs.content? path).bind String.fromUTF8? with
  | some s => .ok s
  | none => .error refusal

end Files

end CallNotice
