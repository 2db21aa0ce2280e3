import CallNotice.Bidi
import CallNotice.Call
import CallNotice.LogEvent
import CallNotice.Notification.Draft
import CallNotice.Settings
import CallNotice.Text.Visible

namespace CallNotice

structure Notifier where
  phrases : Phrases
  rightToLeft : Bool
  logsHandles : Bool
  count : UInt32
  deriving DecidableEq

namespace Notifier

/-- All notifications about missed calls have this id, so that each takes the place of the last. -/
def noticeId : Int32 := 1

def ofSettings (s : Settings) : Notifier := ⟨s.phrases, s.rightToLeft, s.logsHandles, 0⟩

def standard : Notifier := ofSettings .standard

def shownName? (call : Call) : Option String := call.name.filter Text.hasVisible

def callerText (p : Notifier) (call : Call) : String :=
  match shownName? call with
  | some name => name
  | none =>
    if call.handle.address = "" then p.phrases.unknown
    else Bidi.wrap p.rightToLeft call.handle.address

def loggedHandle (p : Notifier) (handle : Handle) : String :=
  if p.logsHandles then handle.toText else handle.redacted

def title (p : Notifier) (missed : UInt32) : String :=
  if missed = 1 then p.phrases.missedCallTitle else p.phrases.missedCallsTitle

def text (p : Notifier) (call : Call) (missed : UInt32) : String :=
  if missed = 1 then p.callerText call else p.phrases.countMessage missed

def callBackButton (p : Notifier) (call : Call) : Button :=
  ⟨Notification.callIcon, p.phrases.callBack, .callBack call.handle⟩

def messageButton (p : Notifier) (call : Call) : Button :=
  ⟨Notification.messageIcon, p.phrases.message, .sendMessage call.handle⟩

def singleParts (p : Notifier) (call : Call) : List DraftPart :=
  [.button (p.callBackButton call), .button (p.messageButton call)] ++
    (call.largeIcon?.map DraftPart.largeIcon).toList

def parts (p : Notifier) (call : Call) (missed : UInt32) : List DraftPart :=
  [.smallIcon Notification.missedCallIcon, .moment call.created, .title (p.title missed),
    .text (p.text call missed), .contentIntent .viewCallLog, .autoCancel true,
    .deleteIntent .clearMissedCalls] ++
    if missed = 1 then p.singleParts call else []

def compose (p : Notifier) (call : Call) (missed : UInt32) : Except Fault Notification :=
  ((Draft.ofParts (p.parts call missed)).build call.created).map Notification.withLights

def composeEvent (p : Notifier) (call : Call) (missed : UInt32) : LogEvent :=
  if missed = 1 then .buttonsAdded (p.loggedHandle call.handle)
  else .buttonsSuppressed (p.loggedHandle call.handle) missed

end Notifier

end CallNotice
