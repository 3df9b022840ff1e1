import SpaceGateway.Network
import SpaceGateway.Notice
import SpaceGateway.Reply
/-!
What can be seen of the gateway from outside, in the order in which it happens.
-/
namespace SpaceGateway

/-- The task during which something is logged. -/
structure Span where
  transaction : Transaction
  server : String
  node : String
  access : String
  deriving DecidableEq, Repr

/-- Callers are known by name. -/
abbrev CallerId := String

inductive Event
  | traffic (t : Traffic)
  | log (e : Log.Entry) (span : Option Span := none)
  /-- A poller receives a notice. -/
  | notice (subscription : String) (n : Notice)
  /-- A reply is sent. It does not arrive if the caller has gone. -/
  | reply (caller : CallerId) (r : Reply) (arrives : Bool)

/-- Puts what is logged into a span. -/
def Event.during (span : Span) : Event → Event
  | log e none => log e (some span)
  | e => e

end SpaceGateway
