import CallNotice.Fault
import CallNotice.Notification.Basic

namespace CallNotice

inductive DraftPart
  | smallIcon (icon : String)
  | moment (moment : Timestamp)
  | title (title : String)
  | text (text : String)
  | contentIntent (intent : Intent)
  | deleteIntent (intent : Intent)
  | autoCancel (on : Bool)
  | button (button : Button)
  | largeIcon (bitmap : Bitmap)
  deriving DecidableEq

structure Draft where
  smallIcon : Option String
  moment : Option Timestamp
  title : Option String
  text : Option String
  contentIntent : Option Intent
  deleteIntent : Option Intent
  autoCancel : Bool
  buttons : List Button
  largeIcon : Option Bitmap
  deriving DecidableEq

namespace Draft

def empty : Draft := ⟨none, none, none, none, none, none, false, [], none⟩

def set (d : Draft) : DraftPart → Draft
  | .smallIcon icon => { d with smallIcon := icon }
  | .moment moment => { d with moment := moment }
  | .title title => { d with title := title }
  | .text text => { d with text := text }
  | .contentIntent intent => { d with contentIntent := intent }
  | .deleteIntent intent => { d with deleteIntent := intent }
  | .autoCancel on => { d with autoCancel := on }
  | .button button => { d with buttons := d.buttons ++ [button] }
  | .largeIcon bitmap => { d with largeIcon := bitmap }

def ofParts (parts : List DraftPart) : Draft := parts.foldl set empty

def build (d : Draft) (now : Timestamp) : Except Fault Notification :=
  match d.title, d.contentIntent with
  | none, _ => .error .titleRequired
  | some _, none => .error .contentIntentRequired
  | some title, some contentIntent => .ok {
      smallIcon := d.smallIcon.getD Notification.missedCallIcon
      moment := d.moment.getD now
      title
      text := d.text.getD ""
      contentIntent
      deleteIntent := d.deleteIntent
      autoCancel := d.autoCancel
      buttons := d.buttons
      largeIcon := d.largeIcon
      showLights := false
      defaultLights := false }

end Draft

end CallNotice
