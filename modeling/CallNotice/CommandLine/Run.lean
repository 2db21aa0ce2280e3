import CallNotice.CommandLine.Command
import CallNotice.Report

namespace CallNotice

structure Surroundings where
  home : String
  /-- Successive readings of the clock. -/
  clock : Nat → Timestamp

namespace Command

variable (around : Surroundings) (settings : Settings)

def workplace : Workplace := .ofSettings around.home settings

def inLines (texts : List String) : String := String.join (texts.map (· ++ "\n"))

def withHost {α : Type} (dryRun : Bool) (work : Host → α × Host) : Act α := do
  let (a, h) := work ((workplace around settings).host settings dryRun (← get))
  set h.scene
  return a

def replayEvents (path : String) (asJson dryRun record : Bool) : Act String := do
  match ← Act.readFiles (·.readText path) with
  | .error _ => throw (.refused ("Failed to read " ++ path))
  | .ok text =>
    let events ← Act.ofExcept (CallEvent.ofText around.clock text)
    let summary ← withHost around settings dryRun fun h =>
      let h := (h.registerAll (Workplace.listeners record)).replay (around.clock 0) events
      ((workplace around settings).summary events.length dryRun h, h)
    return inLines [if asJson then summary.toJson.indented else summary.describe]

def clearMissed (dryRun : Bool) : Act String := do
  if dryRun then
    let rows ← Act.readFiles (CallLogJournal.rows (workplace around settings).callLog)
    return inLines ["[DRY-RUN] Would mark " ++ toString (rows.query .newMissed).length ++
      " missed calls as read and cancel the notification"]
  else
    withHost around settings false fun h => ((), h.clear (around.clock 0))
    return inLines ["Missed calls cleared"]

def deliverAction (action : String) (data : Option String) (asJson : Bool) : Act String := do
  let effect ← Act.ofExcept (← withHost around settings false fun h =>
    h.receiveAction (around.clock 0) action data)
  return inLines [if asJson then effect.toJson.indented else effect.describe]

def listRows (missed : Bool) (limit : Nat) (asJson : Bool) : Act String := do
  let rows ← Act.readFiles (CallLogJournal.rows (workplace around settings).callLog)
  let shown := (rows.query (if missed then .newMissed else .all)).take limit
  return inLines <|
    if asJson then [(Json.arr (shown.map CallLogEntry.toJson)).indented]
    else if shown = [] then ["Call log is empty"]
    else shown.map CallLogEntry.describe

def addRow (number : String) (name : Option String) : Act String := do
  let id ← CallLogJournal.insert (workplace around settings).callLog
    (.missed number name (around.clock 0))
  return inLines ["Added missed call #" ++ toString id.toNat]

def execute : Command → Act String
  | .replay events asJson dryRun record =>
    replayEvents around settings events asJson dryRun record
  | .clear dryRun => clearMissed around settings dryRun
  | .deliver action data asJson => deliverAction around settings action data asJson
  | .list missed limit asJson => listRows around settings missed limit asJson
  | .addMissed number name => addRow around settings number name

/-- Whether the command comes to its end, from a scene on. What it reads may be a directory. -/
def ends (s : Scene) : Command → Bool
  | .replay events asJson dryRun record =>
    match (replayEvents around settings events asJson dryRun record).run s with
    | (.ok _, s) => dryRun || Journal.Ends (workplace around settings).notifications s.files
    | (.error _, _) => true
  | .clear dryRun =>
    if dryRun then Journal.Ends (workplace around settings).callLog s.files
    else ((workplace around settings).host settings false s).clearEnds
  | .deliver action data _ =>
    let host := (workplace around settings).host settings false s
    match (host.receiveAction (around.clock 0) action data).1 with
    | .ok .openCallLog | .error _ => true
    | .ok _ => host.clearEnds
  | .list .. => Journal.Ends (workplace around settings).callLog s.files
  | .addMissed .. => true

def paths (command : Command) : List String :=
  (workplace around settings).paths ++
    match command with
    | .replay events .. => [events]
    | _ => []

end Command

namespace Invocation

def settingsPath (home : String) (i : Invocation) : String :=
  i.settings.getD (Settings.defaultPath home)

def execute (around : Surroundings) (i : Invocation) : Act String := do
  let settings ← Settings.load (i.settingsPath around.home)
  i.command.execute around settings

def ends (around : Surroundings) (files : Files) (i : Invocation) : Bool :=
  match (Settings.load (i.settingsPath around.home)).run (.ofFiles files) with
  | (.ok settings, s) => i.command.ends around settings s
  | (.error _, _) => true

end Invocation

structure Outcome where
  code : Nat
  output : String
  errors : String
  files : Files
  /-- Whether it comes to all this. If not, the command reads for ever. -/
  ends : Bool

namespace CommandLine

def usage : String := Command.inLines [
  "Usage: mcn [--config FILE] COMMAND",
  "",
  "Commands:",
  "  replay EVENTS [--json] [--dry-run] [--no-record]",
  "  clear [--dry-run]",
  "  action ACTION [--data URI] [--json]",
  "  log [--missed] [--limit N] [--json]",
  "  add-missed NUMBER [--name NAME]"]

def errorLine (fault : Fault) : String := "Error: " ++ fault.message

def run (around : Surroundings) (words : List String) (files : Files) : Outcome :=
  match Invocation.ofWords words with
  | .error .misuse => ⟨2, "", usage, files, true⟩
  | .error .help => ⟨0, usage, "", files, true⟩
  | .error .version => ⟨0, "mcn 0.1.0\n", "", files, true⟩
  | .ok invocation =>
    let ends := invocation.ends around files
    match (invocation.execute around).run (.ofFiles files) with
    | (.ok output, scene) => ⟨0, output, Command.inLines scene.notes, scene.files, ends⟩
    | (.error fault, scene) =>
      ⟨1, "", Command.inLines (scene.notes ++ [errorLine fault]), scene.files, ends⟩

end CommandLine

end CallNotice
