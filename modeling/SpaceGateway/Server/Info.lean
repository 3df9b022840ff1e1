import SpaceGateway.Identity
import SpaceGateway.Json.Record
import SpaceGateway.Json.Write
/-!
Where a server is and what it is called.
-/
namespace SpaceGateway

open Json (Result Node Field Slots)

/-- A place on the network. -/
structure Address where
  host : String
  port : UInt16
  deriving DecidableEq, Repr

namespace Address

def text (a : Address) : String := a.host ++ ":" ++ toString a.port.toNat

def json (a : Address) : Json :=
  .object [("host", .string a.host), ("port", .number a.port.toNat)]

def fields : List Field := [.of "host" Node.readText, .of "port" Node.readUInt16]

def ofNode (n : Node) : Result Address := do
  let s ← n.readRecord "ServerAddress" fields
  return ⟨← s.required 0 "host" Node.readText, ← s.required 1 "port" Node.readUInt16⟩

/-- The address with this JSON text. -/
def decode (s : Bytes) : Result Address := Json.decode ofNode s

end Address

/-- What is known of a server before it is used. -/
structure ServerInfo where
  /-- Names the server, and the smart space in its messages. -/
  identity : String
  /-- A friendlier name, for people. -/
  name : String := ""
  address : Address
  deriving DecidableEq, Repr

namespace ServerInfo

def json (i : ServerInfo) : Json :=
  .object [("identity", .string i.identity), ("name", .string i.name), ("address", i.address.json)]

def fields : List Field :=
  [.of "identity" Node.readText, (Field.of "name" Node.readText).orDefault,
    .of "address" Address.ofNode]

def ofNode (n : Node) : Result ServerInfo := do
  let s ← n.readRecord "ServerInfo" fields
  return {
    identity := ← s.required 0 "identity" Node.readText
    name := ← s.getOr 1 "" Node.readText
    address := ← s.required 2 "address" Address.ofNode }

/-- The server with this JSON text. -/
def decode (s : Bytes) : Result ServerInfo := Json.decode ofNode s

/-- Whether an identity names this server. -/
def is (i : ServerInfo) (identity : String) : Bool := Identity.same i.identity identity

end ServerInfo
end SpaceGateway
