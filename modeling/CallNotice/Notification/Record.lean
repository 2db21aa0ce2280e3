import CallNotice.Notification.Basic

namespace CallNotice

inductive RecordKind
  | notify
  | cancel
  deriving DecidableEq

namespace RecordKind

def all : List RecordKind := [.notify, .cancel]

def name : RecordKind → String
  | .notify => "notify"
  | .cancel => "cancel"

def toJson (k : RecordKind) : Json := .text k.name

def ofJson? (j : Json) : Option RecordKind := j.choice? (all.map fun k => (k.name, k))

end RecordKind

structure NotificationRecord where
  moment : Timestamp
  kind : RecordKind
  id : Int32
  notification : Option Notification
  deriving DecidableEq

namespace NotificationRecord

def toJson (r : NotificationRecord) : Json :=
  .obj <| Json.field "ts" r.moment.toJson ++ Json.field "op" r.kind.toJson ++
    Json.field "id" (.int r.id.toInt) ++
    Json.field? "notification" (r.notification.map Notification.toJson)

def ofJson? (j : Json) : Option NotificationRecord := do
  let fields ← j.fields? ["ts", "op", "id", "notification"]
  let moment ← fields.required "ts" Timestamp.ofJson?
  let kind ← fields.required "op" RecordKind.ofJson?
  let id ← fields.required "id" Json.int32?
  let notification ← fields.optional "notification" Notification.ofJson?
  return { moment, kind, id, notification }

end NotificationRecord

end CallNotice
