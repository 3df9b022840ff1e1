import SpaceGateway.Buffer
import SpaceGateway.Event
/-!
A session: one connection and the bytes received on it. An act on a session asks the network for
one thing after another until it is done or has failed.
-/
namespace SpaceGateway

structure Session where
  conn : ConnId
  isOpen : Bool := true
  buffer : Buffer
  deriving DecidableEq, Repr

/-- What a session is in the middle of. -/
inductive Act
  /-- Sending these bytes, at least one. -/
  | writing (rest : Bytes)
  | flushing
  | finishing
  /-- Receiving a message, of which the parser has seen these sections. -/
  | receiving (sections : List Bytes)
  deriving DecidableEq, Repr

namespace Session

/-- How far an act has come. -/
inductive Progress
  | busy (s : Session) (a : Act)
  | sent (s : Session)
  | finished (s : Session)
  | received (s : Session) (m : Message)
  | failed (s : Session) (e : Error)

def closedReason : String := "session closed"

/-- Starts to send all of `b`. -/
def send (s : Session) (b : Bytes) : Progress :=
  if s.isOpen then .busy s (if b.isEmpty then .flushing else .writing b)
  else .failed s (.sendFailed closedReason)

/-- Starts to close the sending direction. -/
def finish (s : Session) : Progress :=
  if s.isOpen then .busy s .finishing else .failed s (.sendFailed closedReason)

def ofReceiving (s : Session) : Receiving → Progress
  | .reading b seen => .busy { s with buffer := b } (.receiving seen)
  | .done b _ (.ok m) => .received { s with buffer := b } m
  | .done b _ (.error e) => .failed { s with buffer := b } e

/-- What is logged when the parser has found a message. -/
def parsed : Receiving → List Event
  | .done b seen (.ok m) =>
    [.log (.parsed (seen.flatten.length - b.unparsed.length) b.unparsed.length m.transaction)]
  | _ => []

/-- Starts to receive a message. -/
def receive (parser : Parser) (s : Session) : Progress × List Event :=
  if s.isOpen then
    let r := s.buffer.receive parser
    (s.ofReceiving r, parsed r)
  else (.failed s (.receiveFailed closedReason), [])

/-- Gives up the connection. -/
def close (s : Session) : Session × List Event :=
  if s.isOpen then ({ s with isOpen := false }, [.traffic (.closed s.conn), .log .closed])
  else (s, [])

/-- Gives up the connection without a word, as when nobody is left who knows the session. -/
def abandon (s : Session) : Session × List Event :=
  if s.isOpen then ({ s with isOpen := false }, [.traffic (.closed s.conn)]) else (s, [])

/-- What an act asks of the network next. -/
def demand (s : Session) : Act → Demand
  | .writing rest => .write s.conn rest
  | .flushing => .flush s.conn
  | .finishing => .finish s.conn
  | .receiving _ => .read s.conn s.buffer.capacity

/-- Goes on with an act once the network has answered. -/
def resume (parser : Parser) (s : Session) : Act → Answer → Progress × List Event
  | .writing _, .accepted 0 => (.failed s (.sendFailed "write zero"), [])
  | .writing rest, .accepted (n + 1) =>
    let left := rest.drop (n + 1)
    (.busy s (if left.isEmpty then .flushing else .writing left), [])
  | .flushing, .done => (.sent s, [])
  | .finishing, .done => (.finished s, [])
  | .receiving seen, .delivered b =>
    let r := s.buffer.deliver parser seen (.bytes b)
    (s.ofReceiving r, parsed r)
  | .receiving seen, .failed reason =>
    (s.ofReceiving (s.buffer.deliver parser seen (.failed reason)), [])
  | .writing _, .failed reason | .flushing, .failed reason | .finishing, .failed reason =>
    (.failed s (.sendFailed reason), [])
  | a, _ => (.busy s a, [])

end Session

/-- The record of an answer, as events. -/
def Demand.events (d : Demand) (a : Answer) : List Event := (d.record? a).toList.map .traffic

end SpaceGateway
