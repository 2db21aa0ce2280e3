import CallNotice.Json.Fields
import CallNotice.Time.Printer
import CallNotice.Time.Reader

namespace CallNotice.Timestamp

def toJson (t : Timestamp) : Json := .text t.toText

def ofJson? (j : Json) : Option Timestamp := j.string?.bind ofText?

end CallNotice.Timestamp
