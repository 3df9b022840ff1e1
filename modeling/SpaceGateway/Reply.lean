import SpaceGateway.Operation
/-!
Replies to callers. Every reply repeats the mark of the call it answers.
-/
namespace SpaceGateway

/-- Whether an operation was carried out. -/
inductive Outcome
  | ok | failed
  deriving DecidableEq, Repr

namespace Outcome

def isOk : Outcome → Bool
  | ok => true
  | failed => false

end Outcome

inductive Reply
  | joined (access : String) (outcome : Outcome)
  | inserted (access : String) (outcome : Outcome) (payload : String)
  | updated (access : String) (outcome : Outcome) (payload : String)
  | removed (access : String) (outcome : Outcome) (payload : String)
  | results (access : String) (outcome : Outcome) (payload : String)
  | subscribed (access : String) (outcome : Outcome) (subscription results : String)
  | changed (access : String) (sequence : UInt32) (subscription added removed : String)
  | unsubscribed (access : String) (outcome : Outcome) (subscription : String)
  deriving DecidableEq, Repr

namespace Reply

/-- The mark of the call that is answered. -/
def access : Reply → String
  | joined a _ | inserted a .. | updated a .. | removed a .. | results a .. | subscribed a ..
  | changed a .. | unsubscribed a .. => a

/-- The payload of a modification that did not get a fitting answer. -/
def connectionFailure : String := "connection failure, or bad response from sib"

/-- The payload of a modification that the server refused. -/
def serverRefusal : String := "sib:reported error"

/-- The reply to an operation that failed before or during its exchange. A leave gets none. -/
def failure? (access : String) : Operation → Option Reply
  | .join => some (.joined access .failed)
  | .leave => none
  | .insert .. => some (.inserted access .failed connectionFailure)
  | .update .. => some (.updated access .failed connectionFailure)
  | .remove .. => some (.removed access .failed connectionFailure)
  | .query .. => some (.results access .failed "InvalidResults")
  | .subscribe .. =>
    some (.subscribed access .failed "sib:InvalidSubscriptionID" "sib:InvalidResults")
  | .unsubscribe subscription => some (.unsubscribed access .failed subscription)

end Reply
end SpaceGateway
