import SpaceGateway.Buffer
import SpaceGateway.Executor
/-!
A network that follows a script: what each connection delivers, how much it accepts and where it
fails.
-/
namespace SpaceGateway.Rehearsal

/-- One connection, or the refusal of one. -/
structure Script where
  refusal : Option String := none
  /-- What reads deliver, in their order. -/
  queued : List Delivery := []
  /-- Whether the stream ends after that. Otherwise reads wait. -/
  ends : Bool := true
  /-- The most bytes that one write accepts. -/
  writeLimit : Option Nat := none
  /-- How many bytes are accepted before writes fail. -/
  writeBudget : Option Nat := none
  flushFails : Bool := false
  finishFails : Bool := false
  deriving Repr

namespace Script

/-- How many of `n` bytes a write accepts. None if it fails. -/
def accepts (s : Script) (n : Nat) : Option Nat :=
  let n := s.writeLimit.elim n (min n)
  match s.writeBudget with
  | none => some n
  | some 0 => none
  | some left => some (min n left)

def write (s : Script) (n : Nat) : Answer × Script :=
  match s.accepts n with
  | none => (.failed "broken pipe", s)
  | some n => (.accepted n, { s with writeBudget := s.writeBudget.map (· - n) })

/-- What a read of at most `most` bytes brings. A piece that is longer stays for the next read. -/
def read (s : Script) (most : Nat) : Option (Answer × Script) :=
  match s.queued with
  | [] => if s.ends then some (.delivered [], s) else none
  | .failed reason :: rest => some (.failed reason, { s with queued := rest })
  | .bytes b :: rest =>
    let left := b.drop most
    some (.delivered (b.take most),
      { s with queued := if left.isEmpty then rest else .bytes left :: rest })

end Script

structure Network where
  /-- The scripts of the connections to come. -/
  coming : List Script := []
  /-- The connections that have opened, in their order. -/
  connections : List Script := []

namespace Network

/-- Asks an open connection. -/
def ask (n : Network) (c : ConnId) (f : Script → Option (Answer × Script)) :
    Option (Answer × Network) := do
  let s ← n.connections[c]?
  let (a, s) ← f s
  return (a, { n with connections := n.connections.set c s })

def answer (n : Network) : Demand → Option (Answer × Network)
  | .connect _ =>
    let script := n.coming.head?.getD {}
    match script.refusal with
    | some reason => some (.failed reason, { n with coming := n.coming.tail })
    | none =>
      some (.connected n.connections.length,
        { coming := n.coming.tail, connections := n.connections ++ [script] })
  | .write c b => n.ask c fun s => some (s.write b.length)
  | .flush c => n.ask c fun s => some (if s.flushFails then .failed "flush failed" else .done, s)
  | .finish c =>
    n.ask c fun s => some (if s.finishFails then .failed "shutdown failed" else .done, s)
  | .read c most => n.ask c (Script.read · most)

/-- Lets a connection deliver more. -/
def push (n : Network) (c : ConnId) (more : List Delivery) (ends : Option Bool) :
    Option Network := do
  let s ← n.connections[c]?
  return { n with
    connections := n.connections.set c
      { s with queued := s.queued ++ more, ends := ends.getD s.ends } }

def wire : Wire Network := ⟨answer, fun n _ => n⟩

/-- What a read brings. -/
def delivery? : Answer → Option Delivery
  | .delivered b => some (.bytes b)
  | .failed reason => some (.failed reason)
  | _ => none

/-- Goes on receiving from a connection for at most `fuel` reads, until the call is done or the
read waits. Also tells what each read left on record and which sections the parser then saw. -/
def receive (parser : Parser) (c : ConnId) :
    Nat → Receiving → Network → Receiving × Network × List (Traffic × List Bytes)
  | fuel + 1, .reading b seen, n =>
    let d : Demand := .read c b.capacity
    match (n.answer d).bind fun (a, n) => (delivery? a).map fun x => (a, x, n) with
    | none => (.reading b seen, n, [])
    | some (a, x, n) =>
      let r := b.deliver parser seen x
      let (last, n, rest) := receive parser c fuel r n
      (last, n, (d.record? a).toList.map (·, r.sections.drop seen.length) ++ rest)
  | _, r, n => (r, n, [])

end Network
end SpaceGateway.Rehearsal
