import SpaceGateway.Client.Call
/-!
Running many parties by turns until all of them wait. A party keeps its turn until it has to wait.
Those that may move on because of its steps queue up behind the others in the order in which they
become able to.
-/
namespace SpaceGateway

/-- Parties that share a state. -/
structure Crew (σ : Type) where
  /-- The parties at present, without those that can only wait for others. -/
  parties : σ → List Nat
  need : σ → Nat → Need
  step : σ → Nat → σ × List Event
  resume : σ → Nat → Answer → σ × List Event

/-- A network that can be asked. -/
structure Wire (ν : Type) where
  /-- The answer, unless it is still to come. -/
  answer : ν → Demand → Option (Answer × ν)
  /-- The connection is given up. -/
  close : ν → ConnId → ν

namespace Executor

structure World (σ ν : Type) where
  state : σ
  net : ν
  /-- The parties that may be able to move, in the order of their turns. -/
  ready : List Nat := []
  events : List Event := []

variable {σ ν : Type}

def hasNoNeed : Need → Bool
  | .nothing => true
  | _ => false

def waitsForOthers : Need → Bool
  | .others => true
  | _ => false

def closings (wire : Wire ν) (net : ν) (ev : List Event) : ν :=
  ev.foldl
    (fun net e =>
      match e with
      | .traffic (.closed c) => wire.close net c
      | _ => net)
    net

/-- Takes note of a step of the party whose turn it is. -/
def moved (crew : Crew σ) (wire : Wire ν) (w : World σ ν) (net : ν) (next : σ × List Event) :
    World σ ν :=
  let woken := (crew.parties next.1).filter fun j =>
    !w.ready.contains j && hasNoNeed (crew.need next.1 j)
  { state := next.1, net := closings wire net next.2, ready := w.ready ++ woken
    events := w.events ++ next.2 }

/-- One step of the party whose turn it is, or the end of its turn. -/
def turn (crew : Crew σ) (wire : Wire ν) (w : World σ ν) (i : Nat) : World σ ν :=
  match crew.need w.state i with
  | .others => { w with ready := w.ready.tail }
  | .nothing => moved crew wire w w.net (crew.step w.state i)
  | .answer d =>
    match wire.answer w.net d with
    | none => { w with ready := w.ready.tail }
    | some (a, net) => moved crew wire w net (crew.resume w.state i a)

/-- At most `fuel` steps, until nobody is ready. -/
def run (crew : Crew σ) (wire : Wire ν) : Nat → World σ ν → World σ ν
  | 0, w => w
  | fuel + 1, w =>
    match w.ready with
    | [] => w
    | i :: _ => run crew wire fuel (turn crew wire w i)

/-- Lets everybody move until all wait. -/
def settle (crew : Crew σ) (wire : Wire ν) (fuel : Nat) (s : σ) (net : ν) : World σ ν :=
  run crew wire fuel
    { state := s, net := net
      ready := (crew.parties s).filter fun i => !waitsForOthers (crew.need s i) }

end Executor

end SpaceGateway
