import SpaceGateway.Log
/-!
What makes a message the answer to a request: it has to name the right transaction, role, node and
space, and then to report success.
-/
namespace SpaceGateway

/-- Whether a message's header is the expected one. Identities match in either ASCII case. -/
def Header.fits (expected got : Header) : Bool :=
  Identity.same got.node expected.node && Identity.same got.space expected.space &&
    got.transaction == expected.transaction && got.role == expected.role

namespace Message

def check (m : Message) (expected : Header) : Except Error Unit :=
  if expected.fits m.header then .ok () else .error (.mismatch expected m.header)

/-- The message, if it reports success in a transaction. -/
def accepted (m : Message) (t : Transaction) : Except Error Message :=
  if m.isOk then .ok m
  else .error (.refused t (m.status.getD (.failure "missing status")))

/-- The message, if it is a successful answer to a node's request in a transaction. -/
def confirmed (m : Message) (node space : String) (t : Transaction) : Except Error Message := do
  m.check ⟨t, .confirm, node, space⟩
  m.accepted t

end Message

/-- What is logged of a message that is no such answer. -/
def Error.verdict : Error → List Log.Entry
  | .mismatch expected got => [.rejected (.mismatch expected got)]
  | .refused t s => [.refused t s]
  | _ => []

end SpaceGateway
