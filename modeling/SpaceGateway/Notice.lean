import SpaceGateway.Confirmation
/-!
What a subscription tells its poller. Every notice but an indication is the last one.
-/
namespace SpaceGateway

inductive Notice
  /-- The results have changed. -/
  | indication (sequence : UInt32) (added removed : String)
  /-- The server has ended the subscription. -/
  | ended (status : Status)
  | failed (e : Error)
  deriving DecidableEq

namespace Notice

def isLast : Notice → Bool
  | indication .. => false
  | ended _ | failed _ => true

def ofResult : Except Error Notice → Notice
  | .ok n => n
  | .error e => failed e

/-- What a message means to a poller. A message that ends subscriptions is read as such; any other
message has to be an indication. Who it is from and for is checked before the subscription. -/
def classify (node space subscription : String) (m : Message) : Except Error Notice :=
  let ends := m.transaction = .unsubscribe ∧ m.role ≠ .request
  let expected : Header :=
    if ends then ⟨.unsubscribe, m.role, node, space⟩ else ⟨.subscribe, .indication, node, space⟩
  match m.check expected with
  | .error e => .error e
  | .ok _ =>
    if !Identity.same (m.subscription.getD "") subscription then
      .error (.wrongSubscription subscription (m.subscription.getD ""))
    else if ends then .ok (.ended (m.status.getD .success))
    else .ok (.indication (m.sequence.getD 0) (m.added.getD "") (m.removed.getD ""))

/-- What is logged of a notice that a poller receives. -/
def entry (subscription : String) : Notice → Log.Entry
  | indication n .. => .indication subscription n
  | ended s => .subscriptionEnded subscription s
  | failed e => .subscriptionFailed subscription e

end Notice
end SpaceGateway
