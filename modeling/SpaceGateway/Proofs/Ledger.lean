import Mathlib.Logic.Function.Basic
import SpaceGateway.Proofs.Course
/-!
Runs of a gateway, with a record of what each request has led to. A request is known by its ticket,
which is its place among all that were made. The gateway moves as it does; the rest of a ledger only
takes note, so that a run can be told about.
-/
namespace SpaceGateway

abbrev Ticket := Nat

/-- An entry of a server's table of subscriptions: the server, the subscription and the session. -/
abbrev Listing := ServerId × String × SessionId

/-- A request that was made. -/
structure Order where
  caller : CallerId
  request : CallerRequest
  /-- The server whose task it became. None if it was rejected. -/
  server : Option ServerId
  deriving DecidableEq

def Order.task? (o : Order) : Option Task := o.server.map (Task.ofRequest · o.caller o.request)

structure Ledger where
  gateway : Gateway
  orders : List Order := []
  /-- The tickets whose tasks are in the queue. -/
  waiting : List Ticket := []
  /-- The tickets whose tasks have left the queue, in the order in which workers took them. -/
  taken : List Ticket := []
  /-- The tickets whose tasks are over. -/
  released : List Ticket := []
  /-- The ticket whose task a worker runs. -/
  hands : WorkerId → Option Ticket := fun _ => none
  /-- What has moved each task on. -/
  inputs : Ticket → List Input := fun _ => []
  /-- The entries that were put into tables of subscriptions, and for whom. -/
  entered : List (Ticket × Listing) := []
  /-- All that was seen, and for whom. -/
  history : List (Option Ticket × Event) := []

/-- All that can happen to a gateway. -/
inductive Move
  | discover (news : Discovery)
  | request (caller : CallerId) (r : CallerRequest)
  | depart (caller : CallerId)
  | shutDown
  | returnFrom (i : Nat)
  /-- A step of a worker that needs no answer. -/
  | work (w : WorkerId)
  /-- The network answers a worker. -/
  | answer (w : WorkerId) (a : Answer)

/-- The worker that a move is a step of. -/
def Move.worker? : Move → Option WorkerId
  | work w | answer w _ => some w
  | _ => none

namespace Gateway

/-- All entries of tables of subscriptions. -/
def listings (g : Gateway) : List Listing :=
  g.registry.servers.zipIdx.flatMap fun (s, i) => s.client.subscriptions.map fun e => (i, e)

/-- Whether a worker that is about to enter a subscription finds it free. -/
def findsFree (g : Gateway) (w : WorkerId) : Bool :=
  match g.pool.workers[w]? with
  | some (.busy t (.registering _ subscription _)) =>
    (g.client? t.server).any fun c => !c.has subscription
  | _ => false

end Gateway

/-- The replies that were sent, with the callers they went to. -/
def replies (ev : List Event) : List (CallerId × Reply) :=
  ev.filterMap fun
    | .reply caller r _ => some (caller, r)
    | _ => none

namespace Ledger

def start (codec : Codec) (config : Config) : Ledger :=
  { gateway := (Gateway.start codec config).1
    history := (Gateway.start codec config).2.map (none, ·) }

def task? (l : Ledger) (k : Ticket) : Option Task := l.orders[k]?.bind Order.task?

/-- The tickets of the requests that became tasks. -/
def accepted (l : Ledger) : List Ticket :=
  (List.range l.orders.length).filter fun k => (l.task? k).isSome

/-- The tickets whose tasks were taken from the queue and are not over. -/
def running (l : Ledger) : List Ticket := l.taken.filter (· ∉ l.released)

/-- What was seen for a ticket, or for none. -/
def eventsOf (l : Ledger) (k : Option Ticket) : List Event :=
  l.history.filterMap fun (j, e) => if j = k then some e else none

def repliesOf (l : Ledger) (k : Ticket) : List (CallerId × Reply) := replies (l.eventsOf (some k))

def trafficOf (l : Ledger) (k : Ticket) : List Traffic := traffic (l.eventsOf (some k))

/-- All connections that were ever opened. -/
def opened (l : Ledger) : List ConnId := openings (traffic (l.history.map (·.2)))

/-- All connections that were given up. -/
def closed (l : Ledger) : List ConnId := closings (traffic (l.history.map (·.2)))

/-- The connections that a task has opened. -/
def openedBy (l : Ledger) (k : Ticket) : List ConnId := openings (l.trafficOf k)

/-- The ticket whose task a worker runs, or is about to take. -/
def ticket? (l : Ledger) (w : WorkerId) : Option Ticket :=
  match l.gateway.pool.workers[w]? with
  | some .inLine => if l.gateway.pool.line.head? = some w then l.waiting.head? else none
  | some (.busy ..) => l.hands w
  | _ => none

/-- Takes note of a step of the gateway. -/
def note (l : Ledger) (k : Option Ticket) (next : Gateway × List Event) : Ledger :=
  { l with gateway := next.1, history := l.history ++ next.2.map (k, ·) }

/-- Takes note of a step of a worker that runs or takes a task. -/
def attend (l : Ledger) (w : WorkerId) (k : Ticket) (i : Input) (next : Gateway × List Event) :
    Ledger :=
  let isTaken := l.hands w = none
  let isBusy := next.1.pool.workers[w]?.any Worker.isBusy
  { l.note (some k) next with
    waiting := if isTaken then l.waiting.tail else l.waiting
    taken := if isTaken then l.taken ++ [k] else l.taken
    released := if isBusy then l.released else l.released ++ [k]
    hands := Function.update l.hands w (if isBusy then some k else none)
    inputs := Function.update l.inputs k (l.inputs k ++ [i])
    entered := l.entered ++
      (next.1.listings.filter (· ∉ l.gateway.listings)).map (k, ·) }

def worked (l : Ledger) (w : WorkerId) (i : Input) (next : Gateway × List Event) : Ledger :=
  match l.ticket? w with
  | some k => l.attend w k i next
  | none => l.note none next

/-- Takes note of a request. -/
def order (l : Ledger) (caller : CallerId) (r : CallerRequest) : Ledger :=
  let (result, next) := l.gateway.request caller r
  let k := l.orders.length
  { l.note (some k) next with
    orders := l.orders ++
      [⟨caller, r, if result.isOk then l.gateway.registry.find? r.server else none⟩]
    waiting := if result.isOk then l.waiting ++ [k] else l.waiting }

def move (l : Ledger) : Move → Ledger
  | .discover news => l.note none (l.gateway.discover news)
  | .request caller r => l.order caller r
  | .depart caller => { l with gateway := l.gateway.depart caller }
  | .shutDown => { l with gateway := l.gateway.shutDown }
  | .returnFrom i => l.note none (l.gateway.returnFrom i)
  | .work w => l.worked w (.step (l.gateway.findsFree w)) (l.gateway.workerStep w)
  | .answer w a => l.worked w (.answer a) (l.gateway.workerResume w a)

/-- Whether something can happen now. A worker that waits for the network gets an answer, any other
makes a step if it can; and a connection that opens is a new one. -/
def Allows (l : Ledger) : Move → Prop
  | .returnFrom i => l.gateway.mayReturn i = true
  | .work w => l.gateway.workerNeed w = .nothing
  | .answer w a =>
    (∃ d, l.gateway.workerNeed w = .answer d) ∧ ∀ c, a = .connected c → c ∉ l.opened
  | _ => True

/-- One move after the other. -/
def moveAll (l : Ledger) (moves : List Move) : Ledger := moves.foldl move l

/-- Whether moves can happen one after the other, each of which satisfies `P` where it is made. -/
def AllowsAll (P : Ledger → Move → Prop) (l : Ledger) : List Move → Prop
  | [] => True
  | mv :: rest => (l.Allows mv ∧ P l mv) ∧ AllowsAll P (l.move mv) rest

end Ledger

/-- A run of moves, each of which satisfies `P` where it is made. -/
inductive Run (P : Ledger → Move → Prop) (l : Ledger) : Ledger → Prop
  | refl : Run P l l
  | snoc {m : Ledger} {mv : Move} (run : Run P l m) (allowed : m.Allows mv) (h : P m mv) :
    Run P l (m.move mv)

theorem Run.trans {P : Ledger → Move → Prop} {a b c : Ledger} (h : Run P a b) (h' : Run P b c) :
    Run P a c := by
  induction h' with
  | refl => exact h
  | snoc _ allowed hp ih => exact .snoc ih allowed hp

theorem run_moveAll {P : Ledger → Move → Prop} {l m : Ledger} {moves : List Move} (run : Run P l m)
    (h : m.AllowsAll P moves) : Run P l (m.moveAll moves) := by
  induction moves generalizing m with
  | nil => exact run
  | cons mv rest ih =>
    obtain ⟨⟨allowed, hp⟩, hrest⟩ := h
    exact ih (.snoc run allowed hp) hrest

instance decidableNeedNothing (n : Need) : Decidable (n = .nothing) :=
  match n with
  | .nothing => isTrue rfl
  | .answer _ => isFalse nofun
  | .others => isFalse nofun

instance decidableNeedAnswer (n : Need) : Decidable (∃ d, n = .answer d) :=
  match n with
  | .nothing => isFalse nofun
  | .answer d => isTrue ⟨d, rfl⟩
  | .others => isFalse nofun

/-- A connection that opens is a new one. -/
instance decidableAnswerNew (a : Answer) (opened : List ConnId) :
    Decidable (∀ c, a = .connected c → c ∉ opened) :=
  match a with
  | .connected c =>
    decidable_of_iff (c ∉ opened) ⟨fun h _ he => Answer.connected.inj he ▸ h, fun h => h c rfl⟩
  | .accepted _ | .done | .delivered _ | .failed _ => isTrue nofun

namespace Ledger

instance decidableAllows (l : Ledger) : (mv : Move) → Decidable (l.Allows mv)
  | .discover _ | .request .. | .depart _ | .shutDown => isTrue trivial
  | .returnFrom i => inferInstanceAs (Decidable (l.gateway.mayReturn i = true))
  | .work w => inferInstanceAs (Decidable (l.gateway.workerNeed w = .nothing))
  | .answer w a =>
    inferInstanceAs (Decidable ((∃ d, l.gateway.workerNeed w = .answer d) ∧
      ∀ c, a = .connected c → c ∉ l.opened))

instance decidableAllowsAll (P : Ledger → Move → Prop) [∀ l mv, Decidable (P l mv)] (l : Ledger) :
    (moves : List Move) → Decidable (l.AllowsAll P moves)
  | [] => isTrue trivial
  | mv :: rest =>
    have := decidableAllowsAll P (l.move mv) rest
    inferInstanceAs (Decidable ((l.Allows mv ∧ P l mv) ∧ (l.move mv).AllowsAll P rest))

end Ledger

/-- Whether a gateway that is started with these settings can come to this. -/
def Reachable (codec : Codec) (config : Config) (l : Ledger) : Prop :=
  Run (fun _ _ => True) (.start codec config) l

end SpaceGateway
