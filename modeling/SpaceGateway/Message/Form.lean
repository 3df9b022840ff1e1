import SpaceGateway.Message
import SpaceGateway.Json.Record
import SpaceGateway.Json.Write
/-!
The JSON form of messages. Members that are absent are left out when a message is written.
-/
namespace SpaceGateway

open Json (Result Node Field Slots)

namespace Transaction

def variants : List (String × Transaction) := all.map fun t => (t.spelling, t)

def json (t : Transaction) : Json := .string t.spelling

def ofNode (n : Node) : Result Transaction := n.readPlain variants

end Transaction

namespace Role

def variants : List (String × Role) := all.map fun r => (r.spelling, r)

def json (r : Role) : Json := .string r.spelling

def ofNode (n : Node) : Result Role := n.readPlain variants

end Role

namespace Status

/-- The two ways a status can be written. -/
inductive Shape
  | bare | worded
  deriving DecidableEq

def variants : List (String × Shape) := [("success", .bare), ("failure", .worded)]

def json : Status → Json
  | success => .string "success"
  | failure word => .object [("failure", .string word)]

def ofNode (n : Node) : Result Status :=
  n.readVariant variants
    (fun
      | .bare => .ok .success
      | .worded => .data (.wrongType .bareVariant "newtype variant"))
    fun
      | .bare, value => do
        value.readNull
        return .success
      | .worded, value => return .failure (← value.readText)

end Status

namespace Message

/-- The members of a message that are present, in the order of declaration. -/
def members (m : Message) : List (String × Json) :=
  [("name", some m.transaction.json),
    ("type", some m.role.json),
    ("transaction_id", m.transactionId.map fun i => .number i.toNat),
    ("node_id", some (.string m.node)),
    ("space_id", some (.string m.space)),
    ("status", m.status.map Status.json),
    ("subscription_id", m.subscription.map .string),
    ("update_sequence", m.sequence.map fun i => .number i.toNat),
    ("payload", m.payload.map .string),
    ("results_added", m.added.map .string),
    ("results_removed", m.removed.map .string)].filterMap
      fun (name, value) => value.map (name, ·)

def json (m : Message) : Json := .object m.members

/-- The JSON text of a message. -/
def render (m : Message) : Bytes := m.json.render

def fields : List Field :=
  [.of "name" Transaction.ofNode,
    .of "type" Role.ofNode,
    .of "transaction_id" (Node.readOption Node.readUInt32),
    .of "node_id" Node.readText,
    .of "space_id" Node.readText,
    .of "status" (Node.readOption Status.ofNode),
    .of "subscription_id" (Node.readOption Node.readText),
    .of "update_sequence" (Node.readOption Node.readUInt32),
    .of "payload" (Node.readOption Node.readText),
    .of "results_added" (Node.readOption Node.readText),
    .of "results_removed" (Node.readOption Node.readText)]

def ofSlots (s : Slots) : Result Message := do
  return {
    transaction := ← s.required 0 "name" Transaction.ofNode
    role := ← s.required 1 "type" Role.ofNode
    transactionId := ← s.getOr 2 none (Node.readOption Node.readUInt32)
    node := ← s.required 3 "node_id" Node.readText
    space := ← s.required 4 "space_id" Node.readText
    status := ← s.getOr 5 none (Node.readOption Status.ofNode)
    subscription := ← s.getOr 6 none (Node.readOption Node.readText)
    sequence := ← s.getOr 7 none (Node.readOption Node.readUInt32)
    payload := ← s.getOr 8 none (Node.readOption Node.readText)
    added := ← s.getOr 9 none (Node.readOption Node.readText)
    removed := ← s.getOr 10 none (Node.readOption Node.readText) }

def ofNode (n : Node) : Result Message := do ofSlots (← n.readRecord "Message" fields)

/-- The message with this JSON text. -/
def decode (s : Bytes) : Result Message := Json.decode ofNode s

end Message
end SpaceGateway
