import CallNotice.CommandLine.Run
import Std.Time.DateTime

namespace CallNotice.Program

def systemPath (place : List String) : String := "/" ++ "/".intercalate place

def look (files : Files) (place : List String) : IO Files := do
  try
    return files.put place (.file (← IO.FS.readBinFile (systemPath place)))
  catch
    | .noFileOrDirectory .. => return files
    | .permissionDenied .. => return (files.put place (.file .empty)).bar place
    | _ => return files.put place .directory

def survey (files : Files) (path : String) : IO Files := do
  let mut files := files
  for place in files.way path do
    if (files.node? place).isNone && files.isDirectory place.dropLast &&
        place.getLast?.all Path.nameFits then
      files ← look files place
  return files

def surveyFor (around : Surroundings) (words : List String) (files : Files) : IO Files := do
  match Invocation.ofWords words with
  | .error _ => return files
  | .ok invocation =>
    let path := invocation.settingsPath around.home
    let files ← survey files path
    match (Settings.load path).run (.ofFiles files) with
    | (.ok settings, _) => (invocation.command.paths around settings).foldlM survey files
    | (.error _, _) => return files

def save (before after : Files) : IO Unit := do
  for (place, node) in after.nodes.reverse do
    if before.node? place ≠ some node then
      match node with
      | .directory => IO.FS.createDirAll (systemPath place)
      | .file content => IO.FS.writeBinFile (systemPath place) content
  for (place, _) in before.nodes do
    if (after.node? place).isNone then IO.FS.removeFile (systemPath place)

def readClock : IO Timestamp := do
  let moment := Std.Time.PlainDateTime.ofWallTime (.ofTimestamp (← Std.Time.Timestamp.now) .zero)
  let date? := Date.of? moment.date.year.toInt moment.date.month.val.toNat moment.date.day.val.toNat
  match date?.bind fun date => Timestamp.of? date moment.time.hour.val.toNat
      moment.time.minute.val.toNat moment.time.second.val.toNat
      moment.time.nanosecond.val.toNat with
  | some now => return now
  | none => throw (IO.userError "the clock shows no date")

def run (words : List String) : IO UInt32 := do
  let now ← readClock
  let around : Surroundings := ⟨(← IO.getEnv "HOME").getD ".", fun _ => now⟩
  let here := Path.names (toString (← IO.currentDir))
  let files ← surveyFor around words (.blank here)
  let outcome := CommandLine.run around words files
  unless outcome.ends do
    throw (IO.userError "a directory is read, which has no end")
  save files outcome.files
  IO.print outcome.output
  IO.eprint outcome.errors
  return outcome.code.toUInt32

end CallNotice.Program

def main (words : List String) : IO UInt32 := CallNotice.Program.run words
