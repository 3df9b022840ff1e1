import SpaceGateway.Client.Call
import SpaceGateway.Registry
/-!
Tasks: operations that callers have asked for, and what callers are told of them.
-/
namespace SpaceGateway

structure Task where
  server : ServerId
  caller : CallerId
  node : String
  access : String
  transactionId : UInt32
  operation : Operation
  deriving DecidableEq, Repr

namespace Task

def ofRequest (server : ServerId) (caller : CallerId) (r : CallerRequest) : Task :=
  { server, caller, node := r.node, access := r.access, transactionId := r.transactionId
    operation := r.operation }

/-- What the server's client is asked to do. -/
def command (t : Task) : Command :=
  match t.operation with
  | .subscribe .. => .subscribe t.node t.transactionId t.operation
  | .unsubscribe subscription => .unsubscribe t.node t.transactionId subscription
  | _ => .request t.node t.transactionId t.operation

/-- What follows when a call for a task is done. -/
structure Conclusion where
  entries : List Log.Entry := []
  reply : Option Reply := none
  /-- The subscription whose notices the task waits for. Without one it is over. -/
  follow : Option String := none

/-- What is logged of a failure. A refusal is the server's own business. -/
def failureEntry (e : Error) : Log.Entry :=
  if e.isRefusal then .operationRefused e else .operationFailed e

/-- The payload of a modification that failed. -/
def diagnostic (e : Error) : String :=
  if e.isRefusal then Reply.serverRefusal else Reply.connectionFailure

/-- A failure that the caller is told of by the operation's failure reply. -/
def failure (t : Task) (entry : Log.Entry) : Conclusion :=
  { entries := [entry], reply := Reply.failure? t.access t.operation }

/-- What follows the answer to a request. Success of an unsubscription is for the poll of the
subscription to tell. -/
def conclude (t : Task) (r : CallResult) : Conclusion :=
  match t.operation, r with
  | .join, .message _ => { reply := some (.joined t.access .ok) }
  | .join, .failed e =>
    { entries := [failureEntry e], reply := some (.joined t.access .failed) }
  | .leave, .failed e => { entries := [.leaveFailed e] }
  | .insert .., .message m => { reply := some (.inserted t.access .ok (m.payload.getD "")) }
  | .insert .., .failed e =>
    { entries := [failureEntry e], reply := some (.inserted t.access .failed (diagnostic e)) }
  | .update .., .message m => { reply := some (.updated t.access .ok (m.payload.getD "")) }
  | .update .., .failed e =>
    { entries := [failureEntry e], reply := some (.updated t.access .failed (diagnostic e)) }
  | .remove .., .message m => { reply := some (.removed t.access .ok (m.payload.getD "")) }
  | .remove .., .failed e =>
    { entries := [failureEntry e], reply := some (.removed t.access .failed (diagnostic e)) }
  | .query .., .message m =>
    match m.payload with
    | some payload => { reply := some (.results t.access .ok payload) }
    | none => t.failure .noResults
  | .query .., .failed e => t.failure (failureEntry e)
  | .subscribe .., .message m =>
    let subscription := m.subscription.getD ""
    { reply := some (.subscribed t.access .ok subscription (m.payload.getD ""))
      follow := some subscription }
  | .subscribe .., .failed e => t.failure (failureEntry e)
  | .unsubscribe _, .failed e => t.failure (failureEntry e)
  | _, _ => {}

/-- What the caller is told of a notice. -/
def heard (t : Task) (subscription : String) : Notice → Reply
  | .indication n added removed => .changed t.access n subscription added removed
  | .ended status => .unsubscribed t.access (if status.isOk then .ok else .failed) subscription
  | .failed _ => .unsubscribed t.access .failed subscription

end Task
end SpaceGateway
