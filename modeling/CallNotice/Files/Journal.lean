import CallNotice.Act
import CallNotice.Json.Printer
import CallNotice.Json.Reader
import CallNotice.Text.Lines

/-!
Journals are files with one value on each line. A line that cannot be read costs only itself.
Writers hold the lock file of the journal while they work on it.
-/

namespace CallNotice.Journal

def line (j : Json) : ByteArray := (j.compact ++ "\n").toUTF8

def content (js : List Json) : ByteArray := js.foldl (fun bytes j => bytes ++ line j) .empty

variable {α : Type}

def read? (decode : Json → Option α) (text : String) : Option α := (Json.parse? text).bind decode

def ofContent (decode : Json → Option α) (bytes : ByteArray) : List α :=
  (Text.readableLines bytes).filterMap (read? decode)

/-- What one reads of a journal at the `n`th time: a line, `none` for one that is not UTF-8, and
nothing behind the last. Of a directory nothing can be read, however often one tries. -/
def reading (path : String) (files : Files) (n : Nat) : Option (Option String) :=
  match files.opened? path with
  | some (.file bytes) =>
    (Text.linesBy 10 13 bytes.data.toList)[n]?.map fun line => String.fromUTF8? ⟨line.toArray⟩
  | some .directory => some none
  | none => none

/-- Whoever reads a journal goes on until there is nothing behind. -/
def Ends (path : String) (files : Files) : Prop := ∃ n, reading path files n = none

theorem ends_iff {path : String} {files : Files} :
    Ends path files ↔ files.opened? path ≠ some .directory := by
  rcases h : files.opened? path with _ | _ | bytes
  · simp [Ends, reading, h]
  · simp [Ends, reading, h]
  · have hlast : reading path files (Text.linesBy 10 13 bytes.data.toList).length = none := by
      simp [reading, h]
    exact iff_of_true ⟨_, hlast⟩ (by simp)

instance (path : String) (files : Files) : Decidable (Ends path files) := decidable_of_iff' _ ends_iff

/-- The values in a journal, if its reading ends; none if there is no such file. -/
def values (decode : Json → Option α) (path : String) (files : Files) : List α :=
  match files.content? path with
  | some bytes => ofContent decode bytes
  | none => []

def lock (path : String) : Act Unit := do
  match Path.parent? path with
  | some parent => Act.makeDirectories parent
  | none => pure ()
  Act.onFiles (·.touch (Path.lockFile path))

def seize (path : String) : Act Unit := do
  lock path
  Act.onFiles (·.openToRead path)

/-- Adds a line. A last line without its line feed is not ended before. -/
def append (path : String) (j : Json) : Act Unit := Act.onFiles (·.append path (line j))

def replace (path : String) (js : List Json) : Act Unit := do
  Act.onFiles (·.write (Path.spareFile path) (content js))
  Act.onFiles (·.rename (Path.spareFile path) path)

end CallNotice.Journal
