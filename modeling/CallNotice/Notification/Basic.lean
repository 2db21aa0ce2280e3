import CallNotice.Intent
import CallNotice.Picture
import CallNotice.Time.Json

namespace CallNotice

structure Button where
  icon : String
  title : String
  intent : Intent
  deriving DecidableEq

namespace Button

def toJson (b : Button) : Json :=
  .obj <| Json.field "icon" (.text b.icon) ++ Json.field "title" (.text b.title) ++
    Json.field "intent" b.intent.toJson

def ofJson? (j : Json) : Option Button := do
  let fields ← j.fields? ["icon", "title", "intent"]
  let icon ← fields.required "icon" Json.string?
  let title ← fields.required "title" Json.string?
  let intent ← fields.required "intent" Intent.ofJson?
  return { icon, title, intent }

end Button

structure Notification where
  smallIcon : String
  moment : Timestamp
  title : String
  text : String
  contentIntent : Intent
  deleteIntent : Option Intent
  autoCancel : Bool
  buttons : List Button
  largeIcon : Option Bitmap
  showLights : Bool
  defaultLights : Bool
  deriving DecidableEq

namespace Notification

def missedCallIcon : String := "stat_notify_missed_call"

def callIcon : String := "stat_sys_phone_call"

def messageIcon : String := "ic_text_holo_dark"

def hasAction (n : Notification) (action : IntentAction) : Bool :=
  n.buttons.any fun b => b.intent.action = action

def withLights (n : Notification) : Notification :=
  { n with showLights := true, defaultLights := true }

def toJson (n : Notification) : Json :=
  .obj <| Json.field "small_icon" (.text n.smallIcon) ++ Json.field "when" n.moment.toJson ++
    Json.field "title" (.text n.title) ++ Json.field "text" (.text n.text) ++
    Json.field "content_intent" n.contentIntent.toJson ++
    Json.field? "delete_intent" (n.deleteIntent.map Intent.toJson) ++
    Json.field "auto_cancel" (.bool n.autoCancel) ++
    Json.field "actions" (.arr (n.buttons.map Button.toJson)) ++
    Json.field? "large_icon" (n.largeIcon.map Bitmap.toJson) ++
    Json.field "show_lights" (.bool n.showLights) ++
    Json.field "default_lights" (.bool n.defaultLights)

def fieldNames : List String := ["small_icon", "when", "title", "text", "content_intent",
  "delete_intent", "auto_cancel", "actions", "large_icon", "show_lights", "default_lights"]

def ofJson? (j : Json) : Option Notification := do
  let fields ← j.fields? fieldNames
  let smallIcon ← fields.required "small_icon" Json.string?
  let moment ← fields.required "when" Timestamp.ofJson?
  let title ← fields.required "title" Json.string?
  let text ← fields.required "text" Json.string?
  let contentIntent ← fields.required "content_intent" Intent.ofJson?
  let deleteIntent ← fields.optional "delete_intent" Intent.ofJson?
  let autoCancel ← fields.withDefault "auto_cancel" false Json.bool?
  let buttons ← fields.withDefault "actions" [] (Json.list? Button.ofJson?)
  let largeIcon ← fields.optional "large_icon" Bitmap.ofJson?
  let showLights ← fields.withDefault "show_lights" false Json.bool?
  let defaultLights ← fields.withDefault "default_lights" false Json.bool?
  return { smallIcon, moment, title, text, contentIntent, deleteIntent, autoCancel, buttons,
           largeIcon, showLights, defaultLights }

end Notification

end CallNotice
