import SpaceGateway.Executor
/-!
A client at work: its calls in progress, and the sessions that are kept by name. A session that a
call brings is its caller's, who may keep it.
-/
namespace SpaceGateway

/-- A call in progress. -/
structure Started where
  id : CallId
  call : Call
  /-- The notices that a poll has received. -/
  heard : List Notice := []

/-- What a call has brought. -/
structure Finished where
  id : CallId
  result : CallResult
  heard : List Notice

structure Desk where
  codec : Codec
  client : Client
  calls : List Started := []
  names : List (String × SessionId) := []
  /-- The calls that are done, the latest last. -/
  finished : List Finished := []

namespace Desk

def session? (d : Desk) (name : String) : Option SessionId := d.names.lookup name

/-- Forgets a name. -/
def forget (d : Desk) (name : String) : Desk × List Event :=
  match d.session? name with
  | none => (d, [])
  | some id =>
    let (c, ev) := d.client.letGo id
    ({ d with client := c, names := d.names.filter (·.1 != name) }, ev)

/-- Keeps a session by name, in place of one that was kept by that name. -/
def keep (d : Desk) (name : String) (s : Session) : Desk × List Event :=
  let (d, ev) := d.forget name
  let (id, c) := d.client.share s
  ({ d with client := c, names := d.names ++ [(name, id)] }, ev)

/-- Enters the session of a name as a subscription, and forgets the name. None if the session is in
use elsewhere; then the name is forgotten all the same. -/
def register (d : Desk) (name subscription : String) : Option Bool × Desk × List Event :=
  match d.session? name with
  | none => (none, d, [])
  | some id =>
    if d.client.sessions[id]?.any (·.holders = 1) then
      let (entered, c, ev) := d.client.enter subscription id
      (some entered, { d with client := c, names := d.names.filter (·.1 != name) }, ev)
    else
      let (d, ev) := d.forget name
      (none, d, ev)

/-- Takes note of how a call stands after a step. -/
def note (d : Desk) (x : Started) (s : Step) : Desk × List Event :=
  let heard := x.heard ++ s.events.filterMap fun
    | .notice _ n => some n
    | _ => none
  match s.status with
  | .going call =>
    let calls := d.calls.map fun y => if y.id = x.id then { x with call, heard } else y
    ({ d with client := s.client, calls }, s.events)
  | .done r =>
    ({ d with
        client := s.client
        calls := d.calls.filter (·.id != x.id)
        finished := d.finished ++ [⟨x.id, r, heard⟩] },
      s.events)

/-- Starts a call. -/
def start (d : Desk) (id : CallId) (command : Command) : Desk × List Event :=
  match Call.ofCommand d.codec d.client.peer command with
  | .error f => ({ d with finished := d.finished ++ [⟨id, .failed (.codec f), []⟩] }, [])
  | .ok call =>
    let x : Started := { id, call }
    { d with calls := d.calls ++ [x] }.note x (call.begin d.client)

def started? (d : Desk) (id : CallId) : Option Started := d.calls.find? (·.id = id)

def need (d : Desk) (id : CallId) : Need :=
  match d.started? id with
  | some x => x.call.need d.client id
  | none => .others

def step (d : Desk) (id : CallId) : Desk × List Event :=
  match d.started? id with
  | some x => d.note x (x.call.step d.codec.parser d.client id)
  | none => (d, [])

def resume (d : Desk) (id : CallId) (answer : Answer) : Desk × List Event :=
  match d.started? id with
  | some x => d.note x (x.call.resume d.codec.parser d.client id answer)
  | none => (d, [])

/-- The calls of a desk, each as one party. -/
def crew : Crew Desk where
  parties d := d.calls.map (·.id)
  need := need
  step := step
  resume := resume

end Desk
end SpaceGateway
