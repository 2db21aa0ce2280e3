import CallNotice.Files.Basic
import CallNotice.LogEvent

/-!
What an action of the program works on outside its own state, and actions that may fail there.
What was done before a failure stays done.
-/

namespace CallNotice

structure Scene where
  files : Files
  log : List LogEvent
  /-- Lines for the user beside the output. -/
  notes : List String
  deriving DecidableEq

namespace Scene

def ofFiles (files : Files) : Scene := ⟨files, [], []⟩

def tell (event : LogEvent) (s : Scene) : Scene := { s with log := s.log ++ [event] }

def say (line : String) (s : Scene) : Scene := { s with notes := s.notes ++ [line] }

end Scene

abbrev Act (α : Type) := ExceptT Fault (StateM Scene) α

namespace Act

def run {α : Type} (act : Act α) (s : Scene) : Except Fault α × Scene := StateT.run (ExceptT.run act) s

def tell (event : LogEvent) : Act Unit := modify (Scene.tell event)

def say (line : String) : Act Unit := modify (Scene.say line)

def onFiles (change : Files → Except Fault Files) : Act Unit := do
  match change (← get).files with
  | .ok files => modify fun s => { s with files }
  | .error fault => throw fault

def readFiles {α : Type} (look : Files → α) : Act α := return look (← get).files

/-- Makes a directory and all that are missing on the way to it, from the first to the last. Those
made before a refusal stay; a path that is not well formed is refused at once. -/
def makeDirectories (path : String) : Act Unit := do
  if path = "" then return
  if !Path.isWellFormed path then throw Files.refusal
  for place in ← readFiles (·.way path) do
    onFiles (·.makeDirectory place)

def ofExcept {α : Type} : Except Fault α → Act α
  | .ok a => return a
  | .error fault => throw fault

def attempt {α : Type} (act : Act α) : Act (Except Fault α) := fun s =>
  match act.run s with
  | (result, s) => (.ok result, s)

end Act

end CallNotice
