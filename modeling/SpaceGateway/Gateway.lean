import SpaceGateway.Config
import SpaceGateway.Executor
import SpaceGateway.Pool
/-!
The gateway: it keeps the known servers, turns callers' requests into tasks for its pool of workers,
and sends the callers their replies.
-/
namespace SpaceGateway

/-- A call that shuts the gateway down. -/
structure Shutdown where
  /-- Whether it waits for the workers. Only the first one does. -/
  waits : Bool
  returned : Bool := false
  deriving DecidableEq, Repr

structure Gateway where
  codec : Codec
  config : Config
  registry : Registry
  pool : Pool
  /-- Callers that take no more replies. -/
  departed : List CallerId := []
  shutdowns : List Shutdown := []

namespace Gateway

/-- A gateway with valid settings. -/
def start (codec : Codec) (config : Config) : Gateway × List Event :=
  let workers := max config.workers.toNat 1
  let buffer := config.receiveBuffer.toNat
  ({ codec, config, registry := { receiveBuffer := buffer }, pool := .ofSize workers },
    [.log (.poolStarted workers), .log (.gatewayStarted workers buffer)])

def discover (g : Gateway) (news : Discovery) : Gateway × List Event :=
  let (registry, ev) := g.registry.discover news
  ({ g with registry }, .log .discovery :: ev)

/-- Announces the configured servers, and tells how many there are. -/
def announce (g : Gateway) : Nat × Gateway × List Event :=
  (g.config.servers.length,
    g.config.servers.foldl
      (fun (g, ev) info =>
        let (g, more) := g.discover (.added info)
        (g, ev ++ more))
      (g, []))

/-- Sends a reply. -/
def send (g : Gateway) (caller : CallerId) (r : Reply) : List Event :=
  if g.departed.contains caller then
    [.reply caller r false, .log (.callerGone r.access)]
  else [.reply caller r true]

/-- Queues a task for a server. -/
def submit (g : Gateway) (server : ServerId) (caller : CallerId) (r : CallerRequest) :
    Except Error Unit × Gateway × List Event :=
  let transaction := r.operation.transaction
  if g.pool.accepting then
    let identity := g.registry.servers[server]?.elim "" (·.info.identity)
    (.ok (),
      { g with
        registry := g.registry.hold server
        pool := g.pool.accept (.ofRequest server caller r) },
      [.log (.taskQueued transaction identity r.access r.operation.payloadLength)])
  else (.error .closed, g, [.log (.taskReleased r.access transaction)])

/-- Takes a caller's request. One that is rejected gets its failure reply at once. -/
def request (g : Gateway) (caller : CallerId) (r : CallerRequest) :
    Except Error Unit × Gateway × List Event :=
  let (result, g, ev) :=
    match g.registry.find r.server with
    | .ok server => g.submit server caller r
    | .error e => (.error e, g, [])
  match result with
  | .ok _ => (.ok (), g, ev)
  | .error e =>
    let reply := (Reply.failure? r.access r.operation).elim [] (g.send caller)
    (.error e, g, ev ++ .log (.requestRejected r.server r.access e) :: reply)

/-- A caller takes no more replies. -/
def depart (g : Gateway) (caller : CallerId) : Gateway :=
  { g with departed := g.departed ++ [caller] }

/-- Starts to shut the gateway down. Tasks in the queue still run. -/
def shutDown (g : Gateway) : Gateway :=
  { g with
    pool := g.pool.close
    shutdowns := g.shutdowns ++ [{ waits := g.shutdowns.isEmpty }] }

def client? (g : Gateway) (server : ServerId) : Option Client :=
  g.registry.servers[server]?.map (·.client)

def span (g : Gateway) (t : Task) : Span :=
  { transaction := t.operation.transaction
    server := g.registry.servers[t.server]?.elim "" (·.info.identity)
    node := t.node
    access := t.access }

/-- What callers see of an event of a task. -/
def relay (g : Gateway) (t : Task) : Event → List Event
  | .notice subscription n => g.send t.caller (t.heard subscription n)
  | e => [e]

/-- Releases a task that is over. -/
def release (g : Gateway) (w : WorkerId) (t : Task) : Gateway × List Event :=
  let (registry, ev) := g.registry.letGo t.server
  ({ g with registry, pool := g.pool.rejoin w },
    .log (.taskReleased t.access t.operation.transaction) :: ev)

/-- Goes on after a step of a task's call. -/
def proceed (g : Gateway) (w : WorkerId) (t : Task) (s : Step) : Gateway × List Event :=
  let g := { g with registry := g.registry.modify t.server fun x => { x with client := s.client } }
  let seen := s.events.flatMap (g.relay t)
  match s.status with
  | .going c => ({ g with pool := g.pool.set w (.busy t c) }, seen)
  | .done r =>
    let k := t.conclude r
    let told := k.entries.map (Event.log ·) ++ k.reply.elim [] (g.send t.caller)
    match k.follow with
    | some subscription =>
      ({ g with pool := g.pool.set w (.busy t (.looking ⟨t.node, subscription, true⟩)) },
        seen ++ told)
    | none =>
      let (g, ev) := g.release w t
      (g, seen ++ told ++ ev)

/-- Starts on a task. -/
def begin (g : Gateway) (w : WorkerId) (t : Task) : Gateway × List Event :=
  match g.client? t.server with
  | none => g.release w t
  | some c =>
    match Call.ofCommand g.codec c.peer t.command with
    | .ok call => g.proceed w t (call.begin c)
    | .error f => g.proceed w t ⟨c, .done (.failed (.codec f)), []⟩

def workerNeed (g : Gateway) (w : WorkerId) : Need :=
  match g.pool.workers[w]? with
  | some .inLine =>
    if g.pool.line.head? = some w then
      match g.pool.chance with
      | .wait => .others
      | _ => .nothing
    else .others
  | some (.busy t c) => (g.client? t.server).elim .others fun client => c.need client w
  | _ => .others

/-- A step of a worker that needs no answer. -/
def workerStep (g : Gateway) (w : WorkerId) : Gateway × List Event :=
  match g.pool.workers[w]? with
  | some .inLine =>
    if g.pool.line.head? = some w then
      match g.pool.chance with
      | .wait => (g, [])
      | .leave => ({ g with pool := g.pool.leave w }, [.log .workerStopped])
      | .take t =>
        let (next, ev) := { g with pool := g.pool.take }.begin w t
        (next, ev.map (Event.during (g.span t)))
    else (g, [])
  | some (.busy t c) =>
    match g.client? t.server with
    | none => (g, [])
    | some client =>
      let (next, ev) := g.proceed w t (c.step g.codec.parser client w)
      (next, ev.map (Event.during (g.span t)))
  | _ => (g, [])

/-- A step of a worker with an answer of the network. -/
def workerResume (g : Gateway) (w : WorkerId) (answer : Answer) : Gateway × List Event :=
  match g.pool.workers[w]? with
  | some (.busy t c) =>
    match g.client? t.server with
    | none => (g, [])
    | some client =>
      let (next, ev) := g.proceed w t (c.resume g.codec.parser client w answer)
      (next, ev.map (Event.during (g.span t)))
  | _ => (g, [])

/-- Whether a shutdown can return. -/
def mayReturn (g : Gateway) (i : Nat) : Bool :=
  g.shutdowns[i]?.any fun s => !s.returned && (!s.waits || g.pool.isDrained)

/-- A shutdown returns. -/
def returnFrom (g : Gateway) (i : Nat) : Gateway × List Event :=
  if g.mayReturn i then
    ({ g with shutdowns := g.shutdowns.modify i fun s => { s with returned := true } },
      [.log .poolStopped, .log .gatewayStopped])
  else (g, [])

/-- The workers, and after them the shutdowns, each as one party. A worker that is behind in line or
has left can do nothing. -/
def crew : Crew Gateway where
  parties g :=
    g.pool.atWork ++ (List.range g.shutdowns.length).map (g.pool.workers.length + ·)
  need g i :=
    let n := g.pool.workers.length
    if i < n then g.workerNeed i else if g.mayReturn (i - n) then .nothing else .others
  step g i :=
    let n := g.pool.workers.length
    if i < n then g.workerStep i else g.returnFrom (i - n)
  resume g i answer := g.workerResume i answer

end Gateway
end SpaceGateway
