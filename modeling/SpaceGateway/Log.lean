import SpaceGateway.Error
import SpaceGateway.Server.Info
/-!
What the gateway logs: the entries, their levels, targets, texts and fields.
-/
namespace SpaceGateway

namespace Log

inductive Level
  | trace | debug | info | warn | error
  deriving DecidableEq, Repr

namespace Level

/-- More severe levels rank higher. -/
def rank : Level → Nat
  | trace => 0
  | debug => 1
  | info => 2
  | warn => 3
  | error => 4

def spelling : Level → String
  | trace => "TRACE"
  | debug => "DEBUG"
  | info => "INFO"
  | warn => "WARN"
  | error => "ERROR"

end Level

/-- The part of the gateway that an entry comes from. -/
inductive Source
  | session | subscription | registry | dispatch | gateway
  deriving DecidableEq, Repr

def Source.target : Source → String
  | session => "ssap.session"
  | subscription => "ssap.subscription"
  | registry => "ssap.registry"
  | dispatch => "ssap.dispatch"
  | gateway => "ssap.gateway"

inductive Value
  | text (s : String)
  | count (n : Nat)
  deriving DecidableEq, Repr

def Value.render : Value → String
  | text s => s
  | count n => toString n

inductive Entry
  | opened (space : String) (address : Address)
  | parsed (consumed left : Nat) (transaction : Transaction)
  | closed
  | rejected (e : Error)
  | refused (transaction : Transaction) (status : Status)
  | subscribed (space subscription : String)
  | subscriptionTaken (subscription : String)
  | subscriptionRemoved (subscription : String)
  | indication (subscription : String) (sequence : UInt32)
  | subscriptionEnded (subscription : String) (status : Status)
  | subscriptionFailed (subscription : String) (e : Error)
  | serverCreated (identity : String) (address : Address)
  | serverAdded (identity : String) (count : Nat)
  | serverRemoved (identity : String) (holders : Nat)
  | serverInvalid (identity : String)
  | serverLive (identity : String) (live : Nat)
  | serverDestroyed (identity : String)
  | poolStarted (workers : Nat)
  | taskQueued (transaction : Transaction) (server access : String) (payload : Nat)
  | taskReleased (access : String) (transaction : Transaction)
  | operationRefused (e : Error)
  | operationFailed (e : Error)
  | leaveFailed (e : Error)
  | noResults
  | callerGone (access : String)
  | workerStopped
  | poolStopped
  | configLoaded (path : String) (workers servers : Nat)
  | gatewayStarted (workers buffer : Nat)
  | discovery
  | requestRejected (server access : String) (e : Error)
  | gatewayStopped
  deriving DecidableEq

namespace Entry

def source : Entry → Source
  | opened .. | parsed .. | closed | rejected _ | refused .. => .session
  | subscribed .. | subscriptionTaken _ | subscriptionRemoved _ | indication ..
  | subscriptionEnded .. | subscriptionFailed .. => .subscription
  | serverCreated .. | serverAdded .. | serverRemoved .. | serverInvalid _ | serverLive ..
  | serverDestroyed _ => .registry
  | poolStarted _ | taskQueued .. | taskReleased .. | operationRefused _ | operationFailed _
  | leaveFailed _ | noResults | callerGone _ | workerStopped | poolStopped => .dispatch
  | configLoaded .. | gatewayStarted .. | discovery | requestRejected .. | gatewayStopped =>
    .gateway

def level : Entry → Level
  | parsed .. | closed | indication .. | taskReleased .. => .trace
  | opened .. | refused .. | subscribed .. | subscriptionRemoved _ | subscriptionEnded ..
  | serverCreated .. | serverDestroyed _ | poolStarted _ | taskQueued .. | operationRefused _
  | callerGone _ | workerStopped | poolStopped | configLoaded .. | discovery => .debug
  | serverAdded .. | serverRemoved .. | gatewayStarted .. | gatewayStopped => .info
  | rejected _ | subscriptionTaken _ | subscriptionFailed .. | serverInvalid _ | serverLive ..
  | operationFailed _ | noResults | requestRejected .. => .warn
  | leaveFailed _ => .error

def text : Entry → String
  | opened .. => "socket opened"
  | parsed .. => "parsed message"
  | closed => "socket closed"
  | rejected _ => "response rejected"
  | refused .. => "server refused request"
  | subscribed .. => "subscribed"
  | subscriptionTaken _ => "subscription id already registered"
  | subscriptionRemoved _ => "subscription removed"
  | indication .. => "indication"
  | subscriptionEnded .. => "subscription ended"
  | subscriptionFailed .. => "subscription failed"
  | serverCreated .. => "server handle created"
  | serverAdded .. => "server added"
  | serverRemoved .. => "server removed"
  | serverInvalid _ => "server reported invalid"
  | serverLive .. => "server destroyed with live subscriptions"
  | serverDestroyed _ => "server handle destroyed"
  | poolStarted _ => "dispatcher started"
  | taskQueued .. => "task queued"
  | taskReleased .. => "task released"
  | operationRefused _ => "server refused operation"
  | operationFailed _ => "operation failed"
  | leaveFailed _ => "leave failed"
  | noResults => "query confirmation without results"
  | callerGone _ => "caller went away, reply dropped"
  | workerStopped => "worker stopped"
  | poolStopped => "dispatcher stopped"
  | configLoaded .. => "loaded gateway config"
  | gatewayStarted .. => "gateway started"
  | discovery => "discovery event"
  | requestRejected .. => "request rejected"
  | gatewayStopped => "gateway stopped"

/-- The fields of an entry, in the order in which they are written. -/
def fields : Entry → List (String × Value)
  | opened space a => [("space", .text space), ("address", .text a.text)]
  | parsed consumed left t =>
    [("consumed", .count consumed), ("left", .count left), ("name", .text t.spelling)]
  | rejected e | operationRefused e | operationFailed e | leaveFailed e =>
    [("error", .text e.message)]
  | refused t s => [("name", .text t.spelling), ("status", .text s.text)]
  | subscribed space sub => [("space", .text space), ("sub", .text sub)]
  | subscriptionTaken sub | subscriptionRemoved sub => [("sub", .text sub)]
  | indication sub n => [("sub", .text sub), ("sequence", .count n.toNat)]
  | subscriptionEnded sub s => [("sub", .text sub), ("status", .text s.text)]
  | subscriptionFailed sub e => [("sub", .text sub), ("error", .text e.message)]
  | serverCreated i a => [("identity", .text i), ("address", .text a.text)]
  | serverAdded i n => [("identity", .text i), ("count", .count n)]
  | serverRemoved i n => [("identity", .text i), ("holders", .count n)]
  | serverInvalid i | serverDestroyed i => [("identity", .text i)]
  | serverLive i n => [("identity", .text i), ("live", .count n)]
  | poolStarted n => [("workers", .count n)]
  | taskQueued t server access payload =>
    [("op", .text t.spelling), ("server", .text server), ("access", .text access),
      ("payload_len", .count payload)]
  | taskReleased access t => [("access", .text access), ("op", .text t.spelling)]
  | callerGone access => [("access", .text access)]
  | configLoaded path workers servers =>
    [("path", .text path), ("workers", .count workers), ("servers", .count servers)]
  | gatewayStarted workers buffer => [("workers", .count workers), ("buffer", .count buffer)]
  | requestRejected server access e =>
    [("server", .text server), ("access", .text access), ("error", .text e.message)]
  | closed | noResults | workerStopped | poolStopped | discovery | gatewayStopped => []

/-- The names of what an entry carries; its text counts as a field. -/
def fieldNames (e : Entry) : List String := "message" :: e.fields.map (·.1)

/-- An entry as one line of text. -/
def line (e : Entry) : String :=
  e.level.spelling ++ " " ++ e.source.target ++ ": " ++ e.text ++
    String.join (e.fields.map fun (name, value) => " " ++ name ++ "=" ++ value.render)

end Entry
end Log
end SpaceGateway
