import SpaceGateway.Reply
import SpaceGateway.Json.Tagged
import SpaceGateway.Json.Write
/-!
The JSON form of replies, tagged by `reply`.
-/
namespace SpaceGateway

open Json (Result Node Field Slots Content)

namespace Outcome

def spelling : Outcome → String
  | ok => "ok"
  | failed => "operation_failed"

def variants : List (String × Outcome) := [ok, failed].map fun o => (o.spelling, o)

def json (o : Outcome) : Json := .string o.spelling

def ofNode (n : Node) : Result Outcome := n.readPlain variants

end Outcome

namespace Reply

/-- The kinds of replies. -/
inductive Kind
  | joined | inserted | updated | removed | results | subscribed | changed | unsubscribed
  deriving DecidableEq

def tags : List (String × Kind) :=
  [("join_complete", .joined), ("insert_response", .inserted), ("update_response", .updated),
    ("remove_response", .removed), ("query_response", .results),
    ("subscribe_response", .subscribed), ("subscription_indication", .changed),
    ("unsubscribe_complete", .unsubscribed)]

/-- A tag, a mark and an outcome. -/
def head (tag access : String) (o : Outcome) : List (String × Json) :=
  [("reply", .string tag), ("access_id", .string access), ("status", o.json)]

/-- The members of a reply, its tag first. -/
def members : Reply → List (String × Json)
  | joined a o => head "join_complete" a o
  | inserted a o p => head "insert_response" a o ++ [("payload", .string p)]
  | updated a o p => head "update_response" a o ++ [("payload", .string p)]
  | removed a o p => head "remove_response" a o ++ [("payload", .string p)]
  | results a o p => head "query_response" a o ++ [("payload", .string p)]
  | subscribed a o s r =>
    head "subscribe_response" a o ++ [("subscription_id", .string s), ("results", .string r)]
  | changed a n s plus minus =>
    [("reply", .string "subscription_indication"), ("access_id", .string a),
      ("sequence", .number n.toNat), ("subscription_id", .string s), ("added", .string plus),
      ("removed", .string minus)]
  | unsubscribed a o s => head "unsubscribe_complete" a o ++ [("subscription_id", .string s)]

def json (r : Reply) : Json := .object r.members

def textField (name : String) : Field := .of name Node.readText
def outcomeField : Field := .of "status" (Node.takePlain Outcome.variants)

/-- The slots of a reply that has an outcome and the texts with these names. -/
def readSlots (name : String) (texts : List String) (content : Content) : Result Slots :=
  content.readVariant ("Reply::" ++ name)
    (textField "access_id" :: outcomeField :: texts.map textField)

def readAccess (s : Slots) : Result String := s.required 0 "access_id" Node.readText

def readOutcome (s : Slots) : Result Outcome :=
  s.required 1 "status" (Node.takePlain Outcome.variants)

/-- The reply to a modification or a query. -/
def readPayload (name : String) (content : Content) : Result (String × Outcome × String) := do
  let s ← readSlots name ["payload"] content
  return (← readAccess s, ← readOutcome s, ← s.required 2 "payload" Node.readText)

/-- The reply of a kind with these members. -/
def ofContent (content : Content) : Kind → Result Reply
  | .joined => do
    let s ← readSlots "JoinComplete" [] content
    return .joined (← readAccess s) (← readOutcome s)
  | .inserted => do
    let (a, o, p) ← readPayload "InsertResponse" content
    return .inserted a o p
  | .updated => do
    let (a, o, p) ← readPayload "UpdateResponse" content
    return .updated a o p
  | .removed => do
    let (a, o, p) ← readPayload "RemoveResponse" content
    return .removed a o p
  | .results => do
    let (a, o, p) ← readPayload "QueryResponse" content
    return .results a o p
  | .subscribed => do
    let s ← readSlots "SubscribeResponse" ["subscription_id", "results"] content
    return .subscribed (← readAccess s) (← readOutcome s)
      (← s.required 2 "subscription_id" Node.readText) (← s.required 3 "results" Node.readText)
  | .changed => do
    let s ← content.readVariant "Reply::SubscriptionIndication"
      [textField "access_id", .of "sequence" Node.readUInt32, textField "subscription_id",
        textField "added", textField "removed"]
    return .changed (← readAccess s) (← s.required 1 "sequence" Node.readUInt32)
      (← s.required 2 "subscription_id" Node.readText) (← s.required 3 "added" Node.readText)
      (← s.required 4 "removed" Node.readText)
  | .unsubscribed => do
    let s ← readSlots "UnsubscribeComplete" ["subscription_id"] content
    return .unsubscribed (← readAccess s) (← readOutcome s)
      (← s.required 2 "subscription_id" Node.readText)

/-- Reads a reply inside `depth` containers. -/
def ofNode (depth : Nat) (n : Node) : Result Reply := do
  let (kind, content) ← n.splitTag "Reply" "reply" tags depth
  ofContent content kind

/-- The reply with this JSON text. -/
def decode (s : Bytes) : Result Reply := Json.decode (ofNode 0) s

end Reply
end SpaceGateway
