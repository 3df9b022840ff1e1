import SpaceGateway.Bytes
import SpaceGateway.Operation
/-!
What the gateway asks of the wire format: to build requests, and to find the next message in the
bytes that arrive. A parser is fresh for each message and sees the bytes in sections; what it
answers depends on the sections it was given so far.
-/
namespace SpaceGateway

inductive CodecFault
  | unbuildable (transaction : Transaction) (reason : String)
  | malformed (reason : String)
  deriving DecidableEq, Repr

namespace CodecFault

def message : CodecFault → String
  | unbuildable t reason => "Cannot build " ++ t.spelling ++ " request: " ++ reason
  | malformed reason => "Malformed message: " ++ reason

end CodecFault

/-- A parser's answer to a section. -/
inductive ParseOutcome
  /-- A message, which ends after `consumed` of all the bytes the parser was given. -/
  | complete (consumed : Nat) (message : Message)
  | inProgress
  | fault (f : CodecFault)
  deriving DecidableEq, Repr

/-- What a parser answers to the last of the sections it was given, in their order. -/
abbrev Parser := List Bytes → ParseOutcome

def ParseOutcome.isInProgress : ParseOutcome → Bool
  | inProgress => true
  | _ => false

theorem ParseOutcome.isInProgress_iff {o : ParseOutcome} : o.isInProgress ↔ o = .inProgress := by
  cases o <;> simp [isInProgress]

/-- What a parser that has seen some sections answers to the next ones, until it has an answer. -/
def Parser.outcomes (p : Parser) (seen : List Bytes) : List Bytes → List ParseOutcome
  | [] => []
  | b :: rest =>
    let seen := seen ++ [b]
    let o := p seen
    if o.isInProgress then o :: p.outcomes seen rest else [o]

structure Codec where
  build : Request → Except CodecFault Bytes
  parser : Parser

end SpaceGateway
