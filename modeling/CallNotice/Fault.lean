import CallNotice.Intent

/-!
What can go wrong. A fault that the library itself finds has a text of its own. Of a refusal by the
operating system, and of a JSON text that does not fit, only the fact is known, and what was being
done if that was said.
-/

namespace CallNotice

inductive Fault
  | titleRequired
  | contentIntentRequired
  | unknownAction (name : String)
  | handleRequired (action : IntentAction)
  | noNotificationService
  | noCallLogProvider
  | refused (doing : Option String)
  | malformed (doing : Option String)
  deriving DecidableEq

namespace Fault

def message : Fault → String
  | .titleRequired => "title is required"
  | .contentIntentRequired => "content_intent is required"
  | .unknownAction name => "Unknown intent action: " ++ name
  | .handleRequired action => action.identifier ++ " requires a handle URI"
  | .noNotificationService => "notification service unavailable"
  | .noCallLogProvider => "call log provider unavailable"
  | .refused doing => doing.getD "io"
  | .malformed doing => doing.getD "json"

end Fault

end CallNotice
