import SpaceGateway.Bytes
import SpaceGateway.Server.Info
/-!
The network as sessions see it: what they ask of it, what it answers, and the record of what
happened. An answer of the wrong kind is no answer at all, and leaves no record.
-/
namespace SpaceGateway

/-- Connections are numbered in the order in which they open. -/
abbrev ConnId := Nat

inductive Demand
  | connect (a : Address)
  /-- Send some of these bytes, from the front. -/
  | write (c : ConnId) (b : Bytes)
  | flush (c : ConnId)
  /-- Send no more, but go on receiving. -/
  | finish (c : ConnId)
  /-- Receive at most so many bytes. -/
  | read (c : ConnId) (most : Nat)
  deriving DecidableEq, Repr

inductive Answer
  | connected (c : ConnId)
  /-- The first so many bytes were sent. -/
  | accepted (n : Nat)
  | done
  /-- No bytes mean that the stream has ended. -/
  | delivered (b : Bytes)
  | failed (reason : String)
  deriving DecidableEq, Repr

inductive Traffic
  | opened (c : ConnId) (a : Address)
  | refused (a : Address)
  | wrote (c : ConnId) (b : Bytes)
  | writeFailed (c : ConnId)
  | flushed (c : ConnId)
  | finished (c : ConnId)
  | read (c : ConnId) (n : Nat)
  | readFailed (c : ConnId)
  | closed (c : ConnId)
  deriving DecidableEq, Repr

/-- What an answer leaves on record. -/
def Demand.record? : Demand → Answer → Option Traffic
  | connect a, .connected c => some (.opened c a)
  | connect a, .failed _ => some (.refused a)
  | write c b, .accepted n => some (.wrote c (b.take n))
  | write c _, .failed _ => some (.writeFailed c)
  | flush c, .done | flush c, .failed _ => some (.flushed c)
  | finish c, .done | finish c, .failed _ => some (.finished c)
  | read c _, .delivered b => some (.read c b.length)
  | read c _, .failed _ => some (.readFailed c)
  | _, _ => none

end SpaceGateway
