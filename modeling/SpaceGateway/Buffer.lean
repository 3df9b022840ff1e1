import SpaceGateway.Error
/-!
Taking messages out of a stream of bytes. A buffer keeps what the last read delivered and no parser
has consumed yet. Receiving a message hands these bytes to a fresh parser before it reads again, and
then each delivery as it comes, until the parser has found the message or given up.
-/
namespace SpaceGateway

structure Buffer where
  /-- The most bytes that one read may deliver. -/
  capacity : Nat
  /-- How many bytes the buffer holds, consumed or not. -/
  valid : Nat := 0
  /-- The bytes at the end of it that no parser has consumed. -/
  unparsed : Bytes := []
  deriving DecidableEq, Repr

/-- What a read brings. No bytes mean that the stream has ended. -/
inductive Delivery
  | bytes (b : Bytes)
  | failed (reason : String)
  deriving DecidableEq, Repr

/-- How far the receiving of a message has come. -/
inductive Receiving
  /-- Waiting for a read. The parser has seen these sections, and the buffer has none left. -/
  | reading (b : Buffer) (sections : List Bytes)
  | done (b : Buffer) (sections : List Bytes) (result : Except Error Message)

namespace Buffer

def emptied (b : Buffer) : Buffer := { b with valid := 0, unparsed := [] }

/-- Hands the bytes it holds, if any, to a parser that has seen `sections`. What a message leaves
over has to come out of the last section. -/
def handOver (parser : Parser) (b : Buffer) (sections : List Bytes) : Receiving :=
  if b.unparsed.isEmpty then .reading b sections
  else
    let seen := sections ++ [b.unparsed]
    match parser seen with
    | .complete consumed m =>
      let handled := seen.flatten.length
      if consumed ≤ handled ∧ handled - consumed ≤ b.unparsed.length then
        let spent := b.unparsed.length - (handled - consumed)
        .done { b with unparsed := b.unparsed.drop spent } seen (.ok m)
      else .done b.emptied seen (.error (.parseFailed (.overreach consumed handled)))
    | .inProgress => .reading b.emptied seen
    | .fault f => .done b.emptied seen (.error (.parseFailed (.codec f)))

/-- Starts to receive a message. -/
def receive (parser : Parser) (b : Buffer) : Receiving := b.handOver parser []

/-- Goes on with what a read brings. -/
def deliver (parser : Parser) (b : Buffer) (sections : List Bytes) : Delivery → Receiving
  | .failed reason => .done b sections (.error (.receiveFailed reason))
  | .bytes [] => .done b sections (.error .peerClosed)
  | .bytes (x :: xs) =>
    handOver parser { b with valid := (x :: xs).length, unparsed := x :: xs } sections

end Buffer

namespace Receiving

def buffer : Receiving → Buffer
  | reading b _ | done b _ _ => b

/-- The sections the parser was given, in their order. -/
def sections : Receiving → List Bytes
  | reading _ s | done _ s _ => s

def result? : Receiving → Option (Except Error Message)
  | reading .. => none
  | done _ _ r => some r

/-- Goes on with several reads, no more than it needs, and tells which are left. -/
def run (parser : Parser) : Receiving → List Delivery → Receiving × List Delivery
  | reading b s, d :: rest => run parser (b.deliver parser s d) rest
  | r, left => (r, left)

end Receiving
end SpaceGateway
