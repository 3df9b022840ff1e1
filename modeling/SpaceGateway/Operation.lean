import SpaceGateway.Message
/-!
What a caller may ask of a smart space, and the request that carries it to a server.
-/
namespace SpaceGateway

/-- The encoding of triples. -/
inductive Encoding
  | rdfM3 | rdfXml
  deriving DecidableEq, Repr

instance : Inhabited Encoding := ⟨.rdfM3⟩

/-- The language of a query. -/
inductive QueryLanguage
  | template | wql | sparql | rdfXml
  deriving DecidableEq, Repr

instance : Inhabited QueryLanguage := ⟨.template⟩

inductive Operation
  | join
  | leave
  | insert (encoding : Encoding) (triples : String)
  /-- Removes triples, then inserts others. -/
  | update (encoding : Encoding) (insert remove : String)
  | remove (encoding : Encoding) (triples : String)
  | query (language : QueryLanguage) (query : String)
  | subscribe (language : QueryLanguage) (query : String)
  | unsubscribe (subscription : String)
  deriving DecidableEq, Repr

namespace Operation

/-- The transaction that carries out the operation. -/
def transaction : Operation → Transaction
  | join => .join
  | leave => .leave
  | insert .. => .insert
  | update .. => .update
  | remove .. => .remove
  | query .. => .query
  | subscribe .. => .subscribe
  | unsubscribe .. => .unsubscribe

/-- The number of bytes in the texts of the operation. -/
def payloadLength : Operation → Nat
  | join | leave => 0
  | insert _ s | remove _ s | query _ s | subscribe _ s | unsubscribe s => s.utf8ByteSize
  | update _ s t => s.utf8ByteSize + t.utf8ByteSize

end Operation

/-- A request as it goes to a server. -/
structure Request where
  space : String
  node : String
  transactionId : UInt32
  operation : Operation
  deriving DecidableEq, Repr

/-- A request as a caller makes it. -/
structure CallerRequest where
  /-- The server that is meant. -/
  server : String
  node : String
  /-- The caller's own mark, repeated in every reply. -/
  access : String
  transactionId : UInt32
  operation : Operation
  deriving DecidableEq, Repr

end SpaceGateway
