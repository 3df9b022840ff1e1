import SpaceGateway.Identity
/-!
Messages between a node and a smart space. Their headers say which transaction they belong to and
which part they play in it.
-/
namespace SpaceGateway

/-- The transactions of the protocol. -/
inductive Transaction
  | join | leave | insert | remove | update | query | subscribe | unsubscribe
  deriving DecidableEq, Repr

namespace Transaction

def spelling : Transaction → String
  | join => "JOIN"
  | leave => "LEAVE"
  | insert => "INSERT"
  | remove => "REMOVE"
  | update => "UPDATE"
  | query => "QUERY"
  | subscribe => "SUBSCRIBE"
  | unsubscribe => "UNSUBSCRIBE"

def all : List Transaction :=
  [join, leave, insert, remove, update, query, subscribe, unsubscribe]

end Transaction

/-- The part a message plays in its transaction: a node's request, the server's answer to it, or
something the server pushes unasked. -/
inductive Role
  | request | confirm | indication
  deriving DecidableEq, Repr

namespace Role

def spelling : Role → String
  | request => "REQUEST"
  | confirm => "CONFIRM"
  | indication => "INDICATION"

def all : List Role := [request, confirm, indication]

end Role

/-- What the server says of a transaction. Any word but success is a failure, kept as it is. -/
inductive Status
  | success
  | failure (word : String)
  deriving DecidableEq, Repr

namespace Status

def isOk : Status → Bool
  | success => true
  | failure _ => false

def text : Status → String
  | success => "success"
  | failure word => word

end Status

structure Message where
  transaction : Transaction
  role : Role
  transactionId : Option UInt32 := none
  /-- The node the message is for. -/
  node : String
  /-- The smart space it comes from. -/
  space : String
  status : Option Status := none
  subscription : Option String := none
  /-- The number of an indication in its subscription. -/
  sequence : Option UInt32 := none
  payload : Option String := none
  added : Option String := none
  removed : Option String := none
  deriving DecidableEq, Repr

namespace Message

/-- Whether the server reports success. A message without a status does not. -/
def isOk (m : Message) : Bool := m.status.any Status.isOk

def is (m : Message) (transaction : Transaction) (role : Role) : Bool :=
  m.transaction == transaction && m.role == role

end Message
end SpaceGateway
