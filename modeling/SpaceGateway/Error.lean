import SpaceGateway.Codec
import SpaceGateway.Json.Fault
/-!
Everything that can go wrong with a request. The first group are failures of one exchange with a
server; none of them is retried.
-/
namespace SpaceGateway

/-- Who a message is from and for, and what it is. -/
structure Header where
  transaction : Transaction
  role : Role
  node : String
  space : String
  deriving DecidableEq, Repr

def Message.header (m : Message) : Header := ⟨m.transaction, m.role, m.node, m.space⟩

/-- Why the bytes of an answer give no usable message. -/
inductive ParseFault
  | codec (f : CodecFault)
  /-- The parser claims a message that does not end in the section it was given. -/
  | overreach (consumed handled : Nat)
  | noSubscription
  | other (reason : String)
  deriving DecidableEq, Repr

namespace ParseFault

def message : ParseFault → String
  | codec f => f.message
  | overreach consumed handled =>
    "parser consumed " ++ toString consumed ++ " of " ++ toString handled ++ " bytes"
  | noSubscription => "subscribe confirmation carries no subscription id"
  | other reason => reason

end ParseFault

inductive Error
  | connectFailed (address reason : String)
  | sendFailed (reason : String)
  | receiveFailed (reason : String)
  /-- The peer ended the stream before a whole message. -/
  | peerClosed
  | parseFailed (fault : ParseFault)
  /-- A message that does not answer the request. -/
  | mismatch (expected got : Header)
  /-- A message on the connection of another subscription. -/
  | wrongSubscription (expected got : String)
  /-- A fitting answer that is no success. -/
  | refused (transaction : Transaction) (status : Status)
  | codec (fault : CodecFault)
  | serverNotFound (identity : String)
  | subscriptionTaken (subscription : String)
  | subscriptionNotFound (subscription : String)
  /-- The pool takes no more tasks. -/
  | closed
  | config (reason : String)
  | io (reason : String)
  | json (fault : Json.Fault)
  deriving DecidableEq

namespace Error

def message : Error → String
  | connectFailed address reason => "Failed to connect to " ++ address ++ ": " ++ reason
  | sendFailed reason => "Failed to send request: " ++ reason
  | receiveFailed reason => "Failed to receive response: " ++ reason
  | peerClosed => "Connection closed by peer"
  | parseFailed f => "Failed to parse response: " ++ f.message
  | mismatch e g =>
    "Unexpected " ++ g.transaction.spelling ++ " " ++ g.role.spelling ++ " for node '" ++ g.node ++
      "' from '" ++ g.space ++ "' (expected " ++ e.transaction.spelling ++ " " ++ e.role.spelling ++
      " for '" ++ e.node ++ "' from '" ++ e.space ++ "')"
  | wrongSubscription expected got =>
    "Message for subscription '" ++ got ++ "' on the socket of '" ++ expected ++ "'"
  | refused t status => "Server reported " ++ t.spelling ++ " failure: " ++ status.text
  | codec f => f.message
  | serverNotFound identity => "Server not found: " ++ identity
  | subscriptionTaken s => "Subscription already registered: " ++ s
  | subscriptionNotFound s => "Subscription not found: " ++ s
  | closed => "Dispatcher is shut down"
  | config reason => "Invalid configuration: " ++ reason
  | io reason => "I/O error: " ++ reason
  | json f => "JSON error: " ++ f.message

/-- Whether the connection or the byte stream failed. -/
def isTransport : Error → Bool
  | connectFailed .. | sendFailed _ | receiveFailed _ | peerClosed | parseFailed _ => true
  | _ => false

/-- Whether the server answered and refused. -/
def isRefusal : Error → Bool
  | refused .. => true
  | _ => false

/-- Whether a message belonged elsewhere. -/
def isMismatch : Error → Bool
  | mismatch .. | wrongSubscription .. => true
  | _ => false

/-- The text of the network's own error behind this one. -/
def cause? : Error → Option String
  | connectFailed _ reason | sendFailed reason | receiveFailed reason | io reason => some reason
  | _ => none

end Error
end SpaceGateway
