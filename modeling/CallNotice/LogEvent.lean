import CallNotice.Call
import CallNotice.Fault
import CallNotice.Text.Quoted

namespace CallNotice

inductive LogLevel
  | debug
  | info
  | warn
  deriving DecidableEq

def LogLevel.name : LogLevel → String
  | .debug => "DEBUG"
  | .info => "INFO"
  | .warn => "WARN"

inductive LogValue
  | text (value : String)
  | number (value : Int)
  | flag (value : Bool)
  deriving DecidableEq

inductive LogEvent
  | settingsAbsent (path : String)
  | listenerRegistered (listener : String)
  | sinkRegistered (sink : String)
  | stateChanged (call : String) (before after : CallState) (listeners : Nat)
  | buttonsAdded (handle : String)
  | buttonsSuppressed (handle : String) (missed : UInt32)
  | composeFailed (fault : Fault)
  | notificationAdded (call : String) (missed : UInt32)
  | postFailed (sink : String) (fault : Fault)
  | markedRead (updated : Nat)
  | markReadFailed (fault : Fault)
  | withdrawFailed (sink : String) (fault : Fault)
  | cleared (previous : UInt32)
  | actionReceived (action : IntentAction)
  | callRecorded (id : UInt64)
  | recordFailed (fault : Fault)
  | rowsUpdated (path : String) (updated : Nat)
  | posted (id : Int32) (title : String) (buttons : List String) (largeIcon : Bool)
  | withdrawn (id : Int32)
  | postRecorded (id : Int32) (path : String)
  | withdrawalRecorded (id : Int32) (path : String)
  | compactionSkipped (path : String) (fault : Fault)
  | sinkPostFailed (sink : String) (id : Int32) (fault : Fault)
  | sinkWithdrawFailed (sink : String) (id : Int32) (fault : Fault)
  deriving DecidableEq

namespace LogEvent

def level : LogEvent → LogLevel
  | settingsAbsent .. | stateChanged .. | buttonsAdded .. | buttonsSuppressed .. | markedRead .. |
    callRecorded .. | rowsUpdated .. | postRecorded .. | withdrawalRecorded .. |
    compactionSkipped .. => .debug
  | listenerRegistered .. | sinkRegistered .. | notificationAdded .. | cleared .. |
    actionReceived .. | posted .. | withdrawn .. => .info
  | composeFailed .. | postFailed .. | markReadFailed .. | withdrawFailed .. | recordFailed .. |
    sinkPostFailed .. | sinkWithdrawFailed .. => .warn

def message : LogEvent → String
  | settingsAbsent .. => "Config file not found, using defaults"
  | listenerRegistered .. => "Registering call listener"
  | sinkRegistered .. => "Registering notification sink"
  | stateChanged .. => "Dispatching call state change"
  | buttonsAdded .. => "Add actions with number"
  | buttonsSuppressed .. => "Suppress actions"
  | composeFailed .. => "Failed to build missed call notification"
  | notificationAdded .. => "Adding missed call notification"
  | postFailed .. => "Failed to post missed call notification"
  | markedRead .. => "Marked new missed calls as read"
  | markReadFailed .. => "Failed to mark missed calls as read"
  | withdrawFailed .. => "Failed to cancel missed call notification"
  | cleared .. => "Missed call notification cleared"
  | actionReceived .. => "Received notification action"
  | callRecorded .. => "Missed call recorded in call log"
  | recordFailed .. => "Failed to record missed call"
  | rowsUpdated .. => "Call log rows updated"
  | posted .. => "Notification posted"
  | withdrawn .. => "Notification cancelled"
  | postRecorded .. => "Notification recorded"
  | withdrawalRecorded .. => "Notification cancel recorded"
  | compactionSkipped .. => "Notification file compaction skipped"
  | sinkPostFailed .. => "Sink notify failed"
  | sinkWithdrawFailed .. => "Sink cancel failed"

def fields : LogEvent → List (String × LogValue)
  | settingsAbsent path => [("path", .text path)]
  | listenerRegistered listener => [("listener", .text listener)]
  | sinkRegistered sink => [("sink", .text sink)]
  | stateChanged call before after listeners =>
    [("call", .text call), ("old", .text before.label), ("new", .text after.label),
      ("listeners", .number listeners)]
  | buttonsAdded handle => [("handle", .text handle)]
  | buttonsSuppressed handle missed => [("handle", .text handle), ("missed", .number missed.toNat)]
  | composeFailed fault => [("error", .text fault.message)]
  | notificationAdded call missed => [("call", .text call), ("missed", .number missed.toNat)]
  | postFailed sink fault => [("sink", .text sink), ("error", .text fault.message)]
  | markedRead updated => [("updated", .number updated)]
  | markReadFailed fault => [("error", .text fault.message)]
  | withdrawFailed sink fault => [("sink", .text sink), ("error", .text fault.message)]
  | cleared previous => [("previous", .number previous.toNat)]
  | actionReceived action => [("action", .text action.identifier)]
  | callRecorded id => [("id", .number id.toNat)]
  | recordFailed fault => [("error", .text fault.message)]
  | rowsUpdated path updated => [("path", .text path), ("updated", .number updated)]
  | posted id title buttons largeIcon =>
    [("sink", .text "log"), ("id", .number id.toInt), ("title", .text title),
      ("actions", .text (Text.quotedList buttons)), ("large_icon", .flag largeIcon)]
  | withdrawn id => [("sink", .text "log"), ("id", .number id.toInt)]
  | postRecorded id path | withdrawalRecorded id path =>
    [("sink", .text "file"), ("id", .number id.toInt), ("path", .text path)]
  | compactionSkipped path fault => [("path", .text path), ("error", .text fault.message)]
  | sinkPostFailed sink id fault | sinkWithdrawFailed sink id fault =>
    [("sink", .text sink), ("id", .number id.toInt), ("error", .text fault.message)]

end LogEvent

end CallNotice
