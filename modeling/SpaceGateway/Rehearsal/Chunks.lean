import SpaceGateway.Buffer
/-!
A stream that is given in chunks and then ends, and receiving from it; and messages that such a stream
may hold.
-/
namespace SpaceGateway.Rehearsal

structure Chunks where
  left : List Bytes
  /-- How many reads have found a chunk. -/
  reads : Nat := 0
  deriving DecidableEq, Repr

namespace Chunks

/-- Reads at most `most` bytes of the first chunk. A chunk goes when it is used up. -/
def read (c : Chunks) (most : Nat) : Bytes × Chunks :=
  match c.left with
  | [] => ([], c)
  | b :: rest =>
    let after := b.drop most
    (b.take most, ⟨if after.isEmpty then rest else after :: rest, c.reads + 1⟩)

/-- How many bytes are still to come. -/
def size (c : Chunks) : Nat := c.left.flatten.length

/-- Goes on receiving for at most `fuel` reads. -/
def serve (parser : Parser) : Nat → Receiving → Chunks → Receiving × Chunks
  | fuel + 1, .reading b seen, c =>
    let (piece, c) := c.read b.capacity
    serve parser fuel (b.deliver parser seen (.bytes piece)) c
  | _, r, c => (r, c)

/-- Receives a message. Each read but the last brings a byte at least, so the bytes to come bound
their number. -/
def receive (parser : Parser) (b : Buffer) (c : Chunks) : Receiving × Chunks :=
  serve parser (c.size + 1) (b.receive parser) c

end Chunks

/-- A successful answer. -/
def confirmation (transaction : Transaction) (node space : String) : Message :=
  { transaction, role := .confirm, node, space, status := some .success }

/-- A change of a subscription's results. Its number tells the changes of one subscription
apart. -/
def indication (node space subscription : String) (sequence : UInt32) : Message :=
  let change (kind : String) : String := kind ++ "-" ++ toString sequence.toNat
  { transaction := .subscribe, role := .indication, node, space
    subscription := some subscription
    sequence := some sequence
    added := some (change "added")
    removed := some (change "removed") }

end SpaceGateway.Rehearsal
