import SpaceGateway.Operation
import SpaceGateway.Json.Tagged
import SpaceGateway.Json.Write
/-!
The JSON form of operations and of callers' requests. An operation is tagged by `op`.
-/
namespace SpaceGateway

open Json (Result Node Field Slots)

namespace Encoding

def spelling : Encoding → String
  | rdfM3 => "rdf-m3"
  | rdfXml => "rdf-xml"

def variants : List (String × Encoding) := [rdfM3, rdfXml].map fun e => (e.spelling, e)

def json (e : Encoding) : Json := .string e.spelling

def ofNode (n : Node) : Result Encoding := n.readPlain variants

end Encoding

namespace QueryLanguage

def spelling : QueryLanguage → String
  | template => "template"
  | wql => "wql"
  | sparql => "sparql"
  | rdfXml => "rdf-xml"

def variants : List (String × QueryLanguage) :=
  [template, wql, sparql, rdfXml].map fun l => (l.spelling, l)

def json (l : QueryLanguage) : Json := .string l.spelling

def ofNode (n : Node) : Result QueryLanguage := n.readPlain variants

end QueryLanguage

namespace Operation

/-- The tags of operations, by the transaction that carries them out. -/
def tags : List (String × Transaction) :=
  [("join", .join), ("leave", .leave), ("insert", .insert), ("update", .update),
    ("remove", .remove), ("query", .query), ("subscribe", .subscribe),
    ("unsubscribe", .unsubscribe)]

/-- The members of an operation, its tag first. -/
def members : Operation → List (String × Json)
  | join => [("op", .string "join")]
  | leave => [("op", .string "leave")]
  | insert e s => [("op", .string "insert"), ("encoding", e.json), ("triples", .string s)]
  | update e s t =>
    [("op", .string "update"), ("encoding", e.json), ("insert", .string s), ("remove", .string t)]
  | remove e s => [("op", .string "remove"), ("encoding", e.json), ("triples", .string s)]
  | query l s => [("op", .string "query"), ("query_type", l.json), ("query", .string s)]
  | subscribe l s => [("op", .string "subscribe"), ("query_type", l.json), ("query", .string s)]
  | unsubscribe s => [("op", .string "unsubscribe"), ("subscription_id", .string s)]

def json (o : Operation) : Json := .object o.members

def encodingField : Field := .of "encoding" (Node.takePlain Encoding.variants)
def languageField : Field := .of "query_type" (Node.takePlain QueryLanguage.variants)
def textField (name : String) : Field := .of name Node.readText

/-- The encoding and the triples of an operation. -/
def readTriples (name : String) (content : Json.Content) : Result (Encoding × String) := do
  let s ← content.readVariant name [encodingField, textField "triples"]
  return (← s.required 0 "encoding" (Node.takePlain Encoding.variants),
    ← s.required 1 "triples" Node.readText)

/-- The language and the text of a query. -/
def readQuery (name : String) (content : Json.Content) : Result (QueryLanguage × String) := do
  let s ← content.readVariant name [languageField, textField "query"]
  return (← s.required 0 "query_type" (Node.takePlain QueryLanguage.variants),
    ← s.required 1 "query" Node.readText)

/-- The operation of a transaction with these members. -/
def ofContent (content : Json.Content) : Transaction → Result Operation
  | .join => do
    content.readEmpty
    return .join
  | .leave => do
    content.readEmpty
    return .leave
  | .insert => do
    let (e, s) ← readTriples "Operation::Insert" content
    return .insert e s
  | .remove => do
    let (e, s) ← readTriples "Operation::Remove" content
    return .remove e s
  | .update => do
    let s ← content.readVariant "Operation::Update"
      [encodingField, textField "insert", textField "remove"]
    return .update (← s.required 0 "encoding" (Node.takePlain Encoding.variants))
      (← s.required 1 "insert" Node.readText) (← s.required 2 "remove" Node.readText)
  | .query => do
    let (l, s) ← readQuery "Operation::Query" content
    return .query l s
  | .subscribe => do
    let (l, s) ← readQuery "Operation::Subscribe" content
    return .subscribe l s
  | .unsubscribe => do
    let s ← content.readVariant "Operation::Unsubscribe" [textField "subscription_id"]
    return .unsubscribe (← s.required 0 "subscription_id" Node.readText)

/-- Reads an operation inside `depth` containers. -/
def ofNode (depth : Nat) (n : Node) : Result Operation := do
  let (transaction, content) ← n.splitTag "Operation" "op" tags depth
  ofContent content transaction

/-- The operation with this JSON text. -/
def decode (s : Bytes) : Result Operation := Json.decode (ofNode 0) s

end Operation

namespace CallerRequest

def json (r : CallerRequest) : Json :=
  .object [("server_id", .string r.server), ("node_id", .string r.node),
    ("access_id", .string r.access), ("transaction_id", .number r.transactionId.toNat),
    ("operation", r.operation.json)]

def fields : List Field :=
  [.of "server_id" Node.readText, .of "node_id" Node.readText, .of "access_id" Node.readText,
    .of "transaction_id" Node.readUInt32, .of "operation" (Operation.ofNode 1)]

def ofNode (n : Node) : Result CallerRequest := do
  let s ← n.readRecord "InboundRequest" fields
  return {
    server := ← s.required 0 "server_id" Node.readText
    node := ← s.required 1 "node_id" Node.readText
    access := ← s.required 2 "access_id" Node.readText
    transactionId := ← s.required 3 "transaction_id" Node.readUInt32
    operation := ← s.required 4 "operation" (Operation.ofNode 1) }

/-- The request with this JSON text. -/
def decode (s : Bytes) : Result CallerRequest := Json.decode ofNode s

end CallerRequest
end SpaceGateway
