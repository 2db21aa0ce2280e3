import CallNotice.Host.Receiver

namespace CallNotice

namespace CallEvent

/-- As many containers may be open in a text as one reader allows, the outermost included. -/
def maxNesting : Nat := 127

def ofText? (now : Timestamp) (s : String) : Option CallEvent :=
  (Json.parse? s).bind (ofJson? now maxNesting)

def isComment (line : List Char) : Bool :=
  match Text.trimChars line with
  | [] => true
  | c :: _ => c = '#'

def badLine (number : Nat) : Fault := .malformed ("Invalid event on line " ++ toString number)

def ofLines (clock : Nat → Timestamp) (number : Nat) : List (List Char) →
    Except Fault (List CallEvent)
  | [] => .ok []
  | line :: rest =>
    if isComment line then ofLines clock (number + 1) rest
    else match ofText? (clock number) (String.ofList line) with
      | none => .error (badLine number)
      | some event => (ofLines clock (number + 1) rest).map (event :: ·)

def ofText (clock : Nat → Timestamp) (text : String) : Except Fault (List CallEvent) :=
  ofLines clock 1 (Text.lines text)

end CallEvent

structure ReplaySummary where
  events : Nat
  missed : UInt32
  dryRun : Bool
  notification : Option Notification
  deriving DecidableEq

namespace ReplaySummary

def toJson (s : ReplaySummary) : Json :=
  .obj <| Json.field "events" (.ofNat s.events) ++
    Json.field "missed_calls" (.ofNat s.missed.toNat) ++ Json.field "dry_run" (.bool s.dryRun) ++
    Json.field "notification" (.ofOption Notification.toJson s.notification)

end ReplaySummary

structure Workplace where
  callLog : String
  notifications : String
  deriving DecidableEq

namespace Workplace

def ofSettings (home : String) (s : Settings) : Workplace :=
  ⟨s.callLogFile home, s.notificationsFile home⟩

def paths (w : Workplace) : List String :=
  [w.callLog, w.notifications].flatMap fun path => [path, Path.lockFile path, Path.spareFile path]

def outlet (w : Workplace) (dryRun : Bool) : Outlet :=
  .dispatcher [.log, .journal ⟨w.notifications, 0⟩] dryRun

def host (w : Workplace) (settings : Settings) (dryRun : Bool) (scene : Scene) : Host :=
  Host.tellSinks ⟨scene, .journal w.callLog, w.outlet dryRun, .ofSettings settings, [], []⟩

def active (w : Workplace) (files : Files) : Board Notification :=
  NotificationJournal.active w.notifications files

/-- A dry run has shown nothing, so what the files still hold is not its own. -/
def summary (w : Workplace) (events : Nat) (dryRun : Bool) (h : Host) : ReplaySummary :=
  ⟨events, h.count, dryRun,
    if dryRun then none else (w.active h.scene.files).get? Notifier.noticeId⟩

def listeners (record : Bool) : List Listener :=
  if record then [.recorder, .notifier] else [.notifier]

end Workplace

end CallNotice
