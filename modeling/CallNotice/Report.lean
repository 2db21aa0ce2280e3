import CallNotice.CallLog.Entry
import CallNotice.Host.Receiver
import CallNotice.Replay
import CallNotice.Text.Padded

namespace CallNotice

namespace Button

def describe (b : Button) : String :=
  "\n   [" ++ b.title ++ "] " ++ (b.intent.data.map Handle.toText).getD ""

end Button

namespace Notification

def describe (id : Int32) (n : Notification) : String :=
  "🔔 [" ++ toString id.toInt ++ "] " ++ n.title ++ "\n   " ++ n.text ++
    "\n   tap: " ++ n.contentIntent.action.identifier ++
    (match n.deleteIntent with
      | some i => "\n   dismiss: " ++ i.action.identifier
      | none => "") ++
    String.join (n.buttons.map Button.describe) ++
    (if n.largeIcon.isSome then "\n   (large icon)" else "")

end Notification

namespace CallLogEntry

def flags (e : CallLogEntry) : String :=
  if e.isNew then "new" else if e.isRead then "read" else ""

def describe (e : CallLogEntry) : String :=
  Text.padLeft 4 (toString e.id.toNat) ++ "  " ++ e.date.toMinuteText ++ "  " ++
    Text.padRight 9 e.type.name ++ " " ++ Text.padRight 20 (e.name.getD e.number) ++ " " ++ e.flags

end CallLogEntry

namespace Effect

def describe : Effect → String
  | openCallLog => "→ open call log"
  | cleared => "✅ missed calls cleared"
  | dial handle => "📞 dial " ++ handle.toText
  | composeMessage handle => "💬 compose SMS to " ++ handle.toText

end Effect

namespace ReplaySummary

def describe (s : ReplaySummary) : String :=
  "Replayed " ++ toString s.events ++ " events, " ++ toString s.missed.toNat ++ " missed\n" ++
    if s.dryRun then "[DRY-RUN] Nothing posted"
    else match s.notification with
      | some n => n.describe Notifier.noticeId
      | none => "No missed call notification"

end ReplaySummary

end CallNotice
