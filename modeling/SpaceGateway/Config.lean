import SpaceGateway.Log
/-!
The settings of a gateway, their JSON form, and what makes them valid.
-/
namespace SpaceGateway

open Json (Result Node Field Slots)

structure Config where
  /-- The size of the worker pool. A live subscription occupies one worker. -/
  workers : UInt64 := 10
  /-- The most bytes that one read takes from a connection. -/
  receiveBuffer : UInt64 := 8192
  /-- Whether connections send small packets at once. -/
  noDelay : Bool := true
  /-- Servers that are announced without discovery. -/
  servers : List ServerInfo := []
  deriving DecidableEq, Repr

/-- Why settings are invalid. -/
inductive ConfigFault
  | noWorkers
  | smallBuffer
  | emptyIdentity
  | duplicateIdentity (identity : String)
  deriving DecidableEq, Repr

namespace ConfigFault

def message : ConfigFault → String
  | noWorkers => "workers must be at least 1"
  | smallBuffer => "receive_buffer_size must be at least 64 bytes"
  | emptyIdentity => "server identity must not be empty"
  | duplicateIdentity identity => "duplicate server identity: " ++ identity

end ConfigFault

namespace Config

/-- Identities must not be empty, nor agree with an earlier one up to ASCII case. -/
def checkIdentities (seen : List (List Char)) : List ServerInfo → Except ConfigFault Unit
  | [] => .ok ()
  | i :: rest =>
    if i.identity.isEmpty then .error .emptyIdentity
    else if seen.contains (Identity.fold i.identity) then .error (.duplicateIdentity i.identity)
    else checkIdentities (Identity.fold i.identity :: seen) rest

/-- The first fault of the settings, the pool and the buffer before the servers. -/
def validate (c : Config) : Except ConfigFault Unit :=
  if c.workers = 0 then .error .noWorkers
  else if c.receiveBuffer < 64 then .error .smallBuffer
  else checkIdentities [] c.servers

def json (c : Config) : Json :=
  .object [("workers", .number c.workers.toNat),
    ("receive_buffer_size", .number c.receiveBuffer.toNat), ("tcp_nodelay", .bool c.noDelay),
    ("servers", .array (c.servers.map ServerInfo.json))]

def fields : List Field :=
  [(Field.of "workers" Node.readUInt64).orDefault,
    (Field.of "receive_buffer_size" Node.readUInt64).orDefault,
    (Field.of "tcp_nodelay" Node.readBool).orDefault,
    (Field.of "servers" (Node.readList ServerInfo.ofNode)).orDefault]

def ofNode (n : Node) : Result Config := do
  let s ← n.readRecord "GatewayConfig" fields
  return {
    workers := ← s.getOr 0 10 Node.readUInt64
    receiveBuffer := ← s.getOr 1 8192 Node.readUInt64
    noDelay := ← s.getOr 2 true Node.readBool
    servers := ← s.getOr 3 [] (Node.readList ServerInfo.ofNode) }

/-- The settings with this JSON text, valid or not. -/
def decode (s : Bytes) : Result Config := Json.decode ofNode s

/-- The settings, if they are valid. -/
def checked (c : Config) : Except Error Config :=
  match c.validate with
  | .ok _ => .ok c
  | .error f => .error (.config f.message)

/-- Reads and checks a JSON text. -/
def ofText (s : Bytes) : Except Error Config :=
  match decode s with
  | .ok c => c.checked
  | .error f => .error (.json f)

/-- Why a file's content could not be had. -/
inductive Unreadable
  | notFound | notText
  deriving DecidableEq

def Unreadable.message : Unreadable → String
  | notFound => "NotFound"
  | notText => "InvalidData"

/-- Reads and checks a file by its content, if there is one. A file must be UTF-8. -/
def ofFile (content : Option Bytes) : Except Error Config :=
  match content with
  | none => .error (.io Unreadable.notFound.message)
  | some bytes =>
    if (text? bytes).isSome then ofText bytes else .error (.io Unreadable.notText.message)

/-- Loads the file at a path, given its content. Only settings that are valid are logged. -/
def load (path : String) (content : Option Bytes) : Except Error Config × List Log.Entry :=
  match ofFile content with
  | .ok c => (.ok c, [.configLoaded path c.workers.toNat c.servers.length])
  | .error e => (.error e, [])

end Config
end SpaceGateway
