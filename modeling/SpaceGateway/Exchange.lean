import SpaceGateway.Session
/-!
Exchanges with a server. Each has a fresh connection: it connects, sends all of a request, closes
the sending direction and receives one message. It stops at the first failure and then closes the
connection.
-/
namespace SpaceGateway

/-- Where exchanges of a client go. -/
structure Peer where
  space : String
  address : Address
  /-- The most bytes that one read takes. -/
  receiveBuffer : Nat
  deriving DecidableEq, Repr

/-- How much of an exchange is wanted, and what becomes of the connection. -/
inductive Purpose
  /-- Connect only. -/
  | connect
  /-- Send only, then close. -/
  | tell
  /-- Receive the answer, then close. -/
  | ask
  /-- Receive the answer and keep the connection. -/
  | keep
  deriving DecidableEq, Repr

inductive Exchange
  | connecting
  | acting (s : Session) (a : Act)
  deriving DecidableEq, Repr

namespace Exchange

/-- How far an exchange has come. -/
inductive Progress
  | busy (x : Exchange)
  | failed (e : Error)
  | connected (s : Session)
  | told
  | answered (m : Message)
  | kept (m : Message) (s : Session)

def demand (peer : Peer) : Exchange → Demand
  | connecting => .connect peer.address
  | acting s a => s.demand a

/-- What follows an act. A fresh session holds no bytes, so receiving starts with a read. -/
def follow (purpose : Purpose) : Session.Progress → Progress × List Event
  | .busy s a => (.busy (.acting s a), [])
  | .failed s e => (.failed e, s.close.2)
  | .sent s =>
    if purpose = .tell then (.told, s.close.2) else (.busy (.acting s .finishing), [])
  | .finished s => (.busy (.acting s (.receiving [])), [])
  | .received s m =>
    if purpose = .keep then (.kept m s, []) else (.answered m, s.close.2)

/-- Goes on with an exchange of `request` once the network has answered. -/
def resume (parser : Parser) (peer : Peer) (purpose : Purpose) (request : Bytes) :
    Exchange → Answer → Progress × List Event
  | connecting, .connected c =>
    let s : Session := { conn := c, buffer := { capacity := peer.receiveBuffer } }
    let opened : List Event := [.log (.opened peer.space peer.address)]
    if purpose = .connect then (.connected s, opened)
    else
      let (p, ev) := follow purpose (s.send request)
      (p, opened ++ ev)
  | connecting, .failed reason => (.failed (.connectFailed peer.address.text reason), [])
  | acting s a, answer =>
    let (p, ev) := s.resume parser a answer
    let (q, more) := follow purpose p
    (q, ev ++ more)
  | x, _ => (.busy x, [])

end Exchange
end SpaceGateway
