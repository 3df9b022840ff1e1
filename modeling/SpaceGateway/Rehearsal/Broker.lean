import SpaceGateway.Codec.Framed
import SpaceGateway.Executor
/-!
A network with a server at the other end. The server reads each request up to the end of the stream
and keeps it, and then behaves as it was told to for this connection.
-/
namespace SpaceGateway.Rehearsal

/-- Streams are numbered in the order in which they are told. -/
abbrev StreamId := Nat

inductive Behavior
  /-- Answer with these chunks and close. -/
  | respond (chunks : List Bytes)
  /-- Close without an answer. -/
  | reset
  /-- Refuse the connection. -/
  | refuse
  /-- Answer with these chunks, then pass on what is pushed until the stream is hung up. -/
  | stream (id : StreamId) (chunks : List Bytes)

/-- The server's end of a connection. -/
structure Peer where
  behavior : Behavior
  request : Bytes := []
  /-- Whether the request has ended. -/
  isAsked : Bool := false
  /-- Whether the server keeps its end open. -/
  isServing : Bool := true
  /-- Whether the client keeps its end open. -/
  isHeard : Bool := true
  /-- What was sent and the client has yet to read. -/
  pipe : Bytes := []
  /-- What the pipe has no room for as yet. -/
  unsent : Bytes := []

namespace Peer

/-- How many bytes can be under way. -/
def pipeSize : Nat := 64 * 1024

/-- Fills the pipe up. -/
def pump (p : Peer) : Peer :=
  let room := pipeSize - p.pipe.length
  { p with pipe := p.pipe ++ p.unsent.take room, unsent := p.unsent.drop room }

def leave (p : Peer) : Peer := { p with isServing := false }

/-- Sends a chunk. The server notices only then that the client has gone, and leaves. -/
def send (p : Peer) (chunk : Bytes) : Peer :=
  if chunk.isEmpty || !p.isServing then p
  else if p.isHeard then { p with unsent := p.unsent ++ chunk }.pump
  else p.leave

/-- The client goes. A server that is still sending notices at once. -/
def clientGone (p : Peer) : Peer :=
  let p := { p with isHeard := false }
  if p.unsent.isEmpty then p else { p with unsent := [] }.leave

/-- A read of at most `most` bytes. It waits while the server keeps silent. -/
def read (p : Peer) (most : Nat) : Option (Bytes × Peer) :=
  let p := if p.pipe.isEmpty then p.pump else p
  if p.pipe.isEmpty && p.isServing then none
  else some (p.pipe.take most, { p with pipe := p.pipe.drop most })

/-- What the server does at the end of a request. -/
def answer (p : Peer) : Peer :=
  let p := { p with isAsked := true }
  match p.behavior with
  | .respond chunks => (chunks.foldl send p).leave
  | .stream _ chunks => chunks.foldl send p
  | .reset | .refuse => p.leave

end Peer

/-- What is pushed into a stream. -/
structure Stream where
  waiting : List Bytes := []
  isHungUp : Bool := false

structure Broker where
  /-- How to behave on the connections to come. -/
  script : List Behavior := []
  peers : List Peer := []
  streams : List Stream := []
  /-- How many connections clients have given up. -/
  closed : Nat := 0
  requests : List Bytes := []

namespace Broker

def modify (b : Broker) (c : ConnId) (f : Peer → Peer) : Broker :=
  { b with peers := b.peers.modify c f }

/-- The connection that serves a stream. -/
def server? (b : Broker) (id : StreamId) : Option (ConnId × Peer) :=
  (b.peers.zipIdx.find? fun (p, _) =>
    match p.behavior with
    | .stream i _ => i == id
    | _ => false).map fun (p, c) => (c, p)

/-- Passes on what was pushed into a stream, once its connection is at that point. -/
def flow (b : Broker) (id : StreamId) : Broker :=
  match b.server? id, b.streams[id]? with
  | some (c, p), some s =>
    if p.isAsked && p.isServing then
      let p := s.waiting.foldl Peer.send p
      let p := if s.isHungUp then p.leave else p
      { b with
        peers := b.peers.set c p
        streams := b.streams.set id { s with waiting := [] } }
    else b
  | _, _ => b

/-- The request on a connection has ended. -/
def ask (b : Broker) (c : ConnId) : Broker :=
  match b.peers[c]? with
  | none => b
  | some p =>
    if p.isAsked then b
    else
      let b := { b with
        peers := b.peers.set c p.answer
        requests := b.requests ++ [p.request] }
      match p.behavior with
      | .stream id _ => b.flow id
      | _ => b

def read (b : Broker) (c : ConnId) (most : Nat) : Option (Answer × Broker) := do
  let (piece, p) ← (← b.peers[c]?).read most
  return (.delivered piece, { b with peers := b.peers.set c p })

def answer (b : Broker) : Demand → Option (Answer × Broker)
  | .connect _ =>
    let b' := { b with script := b.script.tail }
    match b.script.head?.getD .reset with
    | .refuse => some (.failed "refused", b')
    | behavior =>
      some (.connected b.peers.length, { b' with peers := b.peers ++ [{ behavior }] })
  | .write c s =>
    some (.accepted s.length, b.modify c fun p => { p with request := p.request ++ s })
  | .flush _ => some (.done, b)
  | .finish c => some (.done, b.ask c)
  | .read c most => b.read c most

/-- A client gives up a connection. -/
def close (b : Broker) (c : ConnId) : Broker :=
  ({ b with closed := b.closed + 1 }.modify c Peer.clientGone).ask c

def wire : Wire Broker := ⟨answer, close⟩

/-- Whether a stream was hung up. -/
def isHungUp (b : Broker) (id : StreamId) : Bool := b.streams[id]?.any Stream.isHungUp

/-- Pushes a chunk into a stream, unless nobody will ever take it. -/
def push (b : Broker) (id : StreamId) (chunk : Bytes) : Bool × Broker :=
  if (b.server? id).any fun (_, p) => p.isAsked && !p.isServing then (false, b)
  else
    let streams := b.streams.modify id fun s => { s with waiting := s.waiting ++ [chunk] }
    (true, { b with streams }.flow id)

/-- Ends a stream. -/
def hangUp (b : Broker) (id : StreamId) : Broker :=
  { b with streams := b.streams.modify id fun s => { s with isHungUp := true } }.flow id

end Broker
end SpaceGateway.Rehearsal
