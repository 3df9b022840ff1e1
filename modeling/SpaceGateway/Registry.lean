import SpaceGateway.Server
/-!
The servers that are known. They are kept in the order in which they were added, and found by
identity, in either ASCII case. A server that is removed lives on while others hold it, perhaps by
a name.
-/
namespace SpaceGateway

/-- A server is known by its place among all that were ever added. -/
abbrev ServerId := Nat

/-- Names by which servers are held. -/
abbrev Names := List (String × ServerId)

/-- News of servers. -/
inductive Discovery
  | added (info : ServerInfo)
  | removed (identity : String)
  /-- The server was announced but cannot be used. -/
  | invalid (identity : String)
  deriving DecidableEq, Repr

structure Registry where
  receiveBuffer : Nat
  /-- All servers that were ever added. -/
  servers : List Server := []
  /-- Those that are linked, the first added first. -/
  linked : List ServerId := []
  deriving DecidableEq, Repr

namespace Registry

/-- Whether an identity names a server. -/
def names (r : Registry) (id : ServerId) (identity : String) : Bool :=
  r.servers[id]?.any (·.info.is identity)

def find? (r : Registry) (identity : String) : Option ServerId :=
  r.linked.find? (r.names · identity)

/-- The linked server of an identity. -/
def find (r : Registry) (identity : String) : Except Error ServerId :=
  match r.find? identity with
  | some id => .ok id
  | none => .error (.serverNotFound identity)

/-- The identities of the linked servers. -/
def identities (r : Registry) : List String :=
  r.linked.filterMap fun id => r.servers[id]?.map (·.info.identity)

def modify (r : Registry) (id : ServerId) (f : Server → Server) : Registry :=
  { r with servers := r.servers.modify id f }

/-- One more holds a server. -/
def hold (r : Registry) (id : ServerId) : Registry := r.modify id Server.hold

/-- One less holds a server. -/
def letGo (r : Registry) (id : ServerId) : Registry × List Event :=
  match r.servers[id]? with
  | none => (r, [])
  | some s =>
    let (s, ev) := s.letGo
    ({ r with servers := r.servers.set id s }, ev)

/-- Links a server, unless one of its identity is linked already. -/
def add (r : Registry) (info : ServerInfo) : ServerId × Registry × List Event :=
  match r.find? info.identity with
  | some id => (id, r, [])
  | none =>
    let id := r.servers.length
    let (s, ev) := Server.create r.receiveBuffer info
    let r := { r with servers := r.servers ++ [s], linked := r.linked ++ [id] }
    (id, r, ev ++ [.log (.serverAdded info.identity r.linked.length)])

/-- Unlinks a server. -/
def remove (r : Registry) (identity : String) : Bool × Registry × List Event :=
  match r.find? identity with
  | none => (false, r, [])
  | some id =>
    let holders := r.servers[id]?.elim 0 (·.holders)
    let (r, ev) := { r with linked := r.linked.erase id }.letGo id
    (true, r, .log (.serverRemoved identity (holders - 1)) :: ev)

def discover (r : Registry) : Discovery → Registry × List Event
  | .added info => (r.add info).2
  | .removed identity => (r.remove identity).2
  | .invalid identity =>
    let (_, r, ev) := r.remove identity
    (r, .log (.serverInvalid identity) :: ev)

/-- Lets go of what is held by a name. -/
def forget (r : Registry) (names : Names) (name : String) : Registry × Names × List Event :=
  match names.lookup name with
  | none => (r, names, [])
  | some id =>
    let (r, ev) := r.letGo id
    (r, names.filter (·.1 != name), ev)

/-- Holds a server by a name, in place of what was held by it. -/
def holdAs (r : Registry) (names : Names) (name : String) (id : ServerId) :
    Registry × Names × List Event :=
  let (r, names, ev) := (r.hold id).forget names name
  (r, names ++ [(name, id)], ev)

end Registry
end SpaceGateway
