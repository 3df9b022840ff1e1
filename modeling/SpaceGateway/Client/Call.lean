import SpaceGateway.Client
/-!
Calls on a client. A call moves in small steps; between any two of them other calls on the same
client may move. It waits for an answer of the network, for its turn to use a shared session, or for
nothing.
-/
namespace SpaceGateway

inductive Command
  /-- Carries out an operation and checks the answer. -/
  | request (node : String) (transactionId : UInt32) (o : Operation)
  /-- As a request, but keeps the connection for the subscription that is confirmed. -/
  | subscribe (node : String) (transactionId : UInt32) (o : Operation)
  /-- Asks for the end of a subscription. The answer comes on the subscription's connection. -/
  | unsubscribe (node : String) (transactionId : UInt32) (subscription : String)
  /-- Connects, and hands out the session. -/
  | connect
  /-- Sends bytes without waiting for an answer. -/
  | tell (b : Bytes)
  /-- Exchanges bytes for a message, whatever that says. -/
  | ask (b : Bytes)
  /-- As that, and hands out the session. -/
  | keep (b : Bytes)
  | send (id : SessionId) (b : Bytes)
  | finish (id : SessionId)
  | receive (id : SessionId)
  | close (id : SessionId)
  /-- Takes a subscription out of the table and closes its session. -/
  | remove (subscription : String)
  /-- Waits for the next notice of a subscription. -/
  | next (node subscription : String)
  /-- Waits for all notices of a subscription. -/
  | follow (node subscription : String)
  deriving DecidableEq, Repr

/-- A poll of a subscription, for one notice or for all. -/
structure Poll where
  node : String
  subscription : String
  endless : Bool
  deriving DecidableEq, Repr

/-- What comes after a subscription was removed. -/
inductive After
  | report
  | notify (p : Poll) (n : Notice)
  deriving DecidableEq

/-- What a call wants with a shared session. -/
inductive Errand
  | poll (p : Poll)
  | receive
  | send (b : Bytes)
  | finish
  | close
  /-- Close the session of a subscription that was taken out of the table. -/
  | retire (subscription : String) (after : After)
  deriving DecidableEq

/-- What an exchange is for. -/
inductive Aim
  | connect | tell | ask | keep
  /-- Carry out a transaction for a node. -/
  | confirm (node : String) (t : Transaction)
  /-- As that, and enter the subscription that is confirmed. -/
  | subscribe (node : String) (t : Transaction)
  deriving DecidableEq, Repr

def Aim.purpose : Aim → Purpose
  | connect => .connect
  | tell => .tell
  | ask | confirm .. => .ask
  | keep | subscribe .. => .keep

inductive Call
  | exchanging (aim : Aim) (request : Bytes) (x : Exchange)
  /-- About to enter the session of a confirmed subscription into the table. -/
  | registering (m : Message) (subscription : String) (s : Session)
  /-- About to look a subscription up. -/
  | looking (p : Poll)
  /-- About to take a subscription out of the table. -/
  | removing (subscription : String) (after : After)
  /-- Knows of a session, but does not stand in line for it yet. -/
  | approaching (id : SessionId) (e : Errand)
  | waiting (id : SessionId) (e : Errand)
  /-- Its turn has come, and it is in the middle of an act. -/
  | acting (id : SessionId) (e : Errand) (a : Act)
  deriving DecidableEq

/-- What a call brings. -/
inductive CallResult
  | failed (e : Error)
  | message (m : Message)
  | kept (m : Message) (s : Session)
  | connected (s : Session)
  /-- All is sent. -/
  | sent
  | closed
  | removed (found : Bool)
  | notice (n : Notice)
  | followed

inductive CallStatus
  | going (c : Call)
  | done (r : CallResult)

/-- What a call waits for. -/
inductive Need
  | nothing
  | answer (d : Demand)
  /-- A step of somebody else. -/
  | others

/-- The outcome of a step: the client after it, how the call stands, and what was seen. -/
structure Step where
  client : Client
  status : CallStatus
  events : List Event := []

/-- A step that begins with these events. -/
def Step.after (ev : List Event) (s : Step) : Step := { s with events := ev ++ s.events }

namespace Call

def need (c : Client) (k : CallId) : Call → Need
  | exchanging _ _ x => .answer (x.demand c.peer)
  | acting id _ a =>
    match c.session? id with
    | some s => .answer (s.demand a)
    | none => .others
  | waiting id _ => if c.isTurn id k then .nothing else .others
  | registering .. | looking _ | removing .. | approaching .. => .nothing

/-- The first stage of a command, if it can be carried out at all. -/
def ofCommand (codec : Codec) (peer : Peer) : Command → Except CodecFault Call
  | .request node i o => do
    return exchanging (.confirm node o.transaction) (← codec.build ⟨peer.space, node, i, o⟩)
      .connecting
  | .subscribe node i o => do
    return exchanging (.subscribe node o.transaction) (← codec.build ⟨peer.space, node, i, o⟩)
      .connecting
  | .unsubscribe node i subscription => do
    return exchanging .tell (← codec.build ⟨peer.space, node, i, .unsubscribe subscription⟩)
      .connecting
  | .connect => .ok (exchanging .connect [] .connecting)
  | .tell b => .ok (exchanging .tell b .connecting)
  | .ask b => .ok (exchanging .ask b .connecting)
  | .keep b => .ok (exchanging .keep b .connecting)
  | .send id b => .ok (approaching id (.send b))
  | .finish id => .ok (approaching id .finish)
  | .receive id => .ok (approaching id .receive)
  | .close id => .ok (approaching id .close)
  | .remove subscription => .ok (removing subscription .report)
  | .next node subscription => .ok (looking ⟨node, subscription, false⟩)
  | .follow node subscription => .ok (looking ⟨node, subscription, true⟩)

/-- Starts a call. One that is about a session knows of it from then on. -/
def begin (c : Client) : Call → Step
  | approaching id e => ⟨c.hold id, .going (approaching id e), []⟩
  | call => ⟨c, .going call, []⟩

/-- Hands a notice to the poller. -/
def notify (p : Poll) (n : Notice) : CallStatus × List Event :=
  if p.endless then
    (if n.isLast then .done .followed else .going (looking p),
      [.log (n.entry p.subscription), .notice p.subscription n])
  else (.done (.notice n), [])

/-- Goes on after a poll. The last notice of a subscription removes it first. -/
def noted (p : Poll) (n : Notice) : CallStatus × List Event :=
  if n.isLast then (.going (removing p.subscription (.notify p n)), []) else notify p n

/-- What a poll makes of what it has received. -/
def polled (space : String) (p : Poll) (r : Except Error Message) : CallStatus × List Event :=
  let classified := r.bind (Notice.classify p.node space p.subscription)
  let said : List Event :=
    match classified with
    | .ok _ => []
    | .error e => e.verdict.map .log
  let (status, ev) := noted p (Notice.ofResult classified)
  (status, said ++ ev)

/-- Goes on after a subscription was removed, or was not there. -/
def afterwards (found : Bool) : After → CallStatus × List Event
  | .report => (.done (.removed found), [])
  | .notify p n => notify p n

/-- What is made of the end of an act. Only an act that receives brings a message. -/
def outcome (space : String) : Errand → Except Error (Option Message) → CallStatus × List Event
  | .poll p, r => polled space p (r.bind fun m => m.elim (.error .peerClosed) .ok)
  | .receive, .ok (some m) => (.done (.message m), [])
  | .receive, .ok none => (.done (.failed .peerClosed), [])
  | .send _, .ok _ | .finish, .ok _ => (.done .sent, [])
  | .receive, .error e | .send _, .error e | .finish, .error e => (.done (.failed e), [])
  | .close, _ => (.done .closed, [])
  | .retire _ after, _ => afterwards true after

/-- Ends the use of a session: first the next in line gets its turn. -/
def conclude (c : Client) (k : CallId) (id : SessionId) (e : Errand) (s : Session)
    (r : Except Error (Option Message)) : Step :=
  let (c, gone) := (c.put id s).leave id k
  let (status, ev) := outcome c.peer.space e r
  ⟨c, status, gone ++ ev⟩

/-- Goes on with the use of a session. -/
def proceed (c : Client) (k : CallId) (id : SessionId) (e : Errand) : Session.Progress → Step
  | .busy s a => ⟨c.put id s, .going (acting id e a), []⟩
  | .sent s | .finished s => conclude c k id e s (.ok none)
  | .received s m => conclude c k id e s (.ok (some m))
  | .failed s err => conclude c k id e s (.error err)

/-- Starts to use a session. -/
def embark (parser : Parser) (c : Client) (k : CallId) (id : SessionId) (s : Session)
    (e : Errand) : Step :=
  match e with
  | .poll _ | .receive =>
    let (p, ev) := s.receive parser
    (proceed c k id e p).after ev
  | .send b => proceed c k id e (s.send b)
  | .finish => proceed c k id e s.finish
  | .close =>
    let (s, ev) := s.close
    (conclude c k id e s (.ok none)).after ev
  | .retire subscription _ =>
    let (s, ev) := s.close
    (conclude c k id e s (.ok none)).after (ev ++ [.log (.subscriptionRemoved subscription)])

/-- What is made of an exchange. -/
def exchanged (c : Client) (aim : Aim) (request : Bytes) : Exchange.Progress → Step
  | .busy x => ⟨c, .going (exchanging aim request x), []⟩
  | .failed e => ⟨c, .done (.failed e), []⟩
  | .connected s => ⟨c, .done (.connected s), []⟩
  | .told => ⟨c, .done .sent, []⟩
  | .answered m =>
    match aim with
    | .confirm node t =>
      match m.confirmed node c.peer.space t with
      | .ok m => ⟨c, .done (.message m), []⟩
      | .error e => ⟨c, .done (.failed e), e.verdict.map .log⟩
    | _ => ⟨c, .done (.message m), []⟩
  | .kept m s =>
    match aim with
    | .subscribe node t =>
      match m.confirmed node c.peer.space t with
      | .error e => ⟨c, .done (.failed e), e.verdict.map .log ++ s.close.2⟩
      | .ok m =>
        match m.subscription with
        | none => ⟨c, .done (.failed (.parseFailed .noSubscription)), s.close.2⟩
        | some subscription => ⟨c, .going (registering m subscription s), []⟩
    | _ => ⟨c, .done (.kept m s), []⟩

/-- A step that needs no answer. A call that waits for something else stays as it is. -/
def step (parser : Parser) (c : Client) (k : CallId) : Call → Step
  | registering m subscription s =>
    let (entered, c, ev) := c.register subscription s
    if entered then
      ⟨c, .done (.message m), ev ++ [.log (.subscribed c.peer.space subscription)]⟩
    else ⟨c, .done (.failed (.subscriptionTaken subscription)), ev⟩
  | looking p =>
    match c.find? p.subscription with
    | some id => ⟨c.hold id, .going (approaching id (.poll p)), []⟩
    | none =>
      let (status, ev) := notify p (.failed (.subscriptionNotFound p.subscription))
      ⟨c, status, ev⟩
  | removing subscription after =>
    match c.unlink? subscription with
    | some (id, c) => ⟨c, .going (approaching id (.retire subscription after)), []⟩
    | none =>
      let (status, ev) := afterwards false after
      ⟨c, status, ev⟩
  | approaching id e => ⟨c.join id k, .going (waiting id e), []⟩
  | waiting id e =>
    match c.session? id with
    | some s => if c.isTurn id k then embark parser c k id s e else ⟨c, .going (waiting id e), []⟩
    | none => ⟨c, .going (waiting id e), []⟩
  | call => ⟨c, .going call, []⟩

/-- A step with an answer of the network. -/
def resume (parser : Parser) (c : Client) (k : CallId) (answer : Answer) : Call → Step
  | exchanging aim request x =>
    let (p, ev) := x.resume parser c.peer aim.purpose request answer
    (exchanged c aim request p).after ((x.demand c.peer).events answer ++ ev)
  | acting id e a =>
    match c.session? id with
    | some s =>
      let (p, ev) := s.resume parser a answer
      (proceed c k id e p).after ((s.demand a).events answer ++ ev)
    | none => ⟨c, .going (acting id e a), []⟩
  | call => ⟨c, .going call, []⟩

end Call
end SpaceGateway
