import SpaceGateway.Task
/-!
The pool of workers and its queue. Free workers stand in line; the first of them takes the next task
as soon as there is one, and leaves for good when the queue is closed and empty. A worker that is
done with a task goes to the end of the line.
-/
namespace SpaceGateway

abbrev WorkerId := Nat

inductive Worker
  | inLine
  | busy (t : Task) (c : Call)
  | stopped

namespace Worker

def isBusy : Worker → Bool
  | busy .. => true
  | _ => false

def isStopped : Worker → Bool
  | stopped => true
  | _ => false

end Worker

structure Pool where
  workers : List Worker
  /-- The free workers, the next to take a task first. -/
  line : List WorkerId
  /-- Accepted tasks that no worker has taken, the oldest first. -/
  queue : List Task := []
  accepting : Bool := true

namespace Pool

/-- A pool of `n` free workers. -/
def ofSize (n : Nat) : Pool := { workers := List.replicate n .inLine, line := List.range n }

/-- How many workers run a task. -/
def active (p : Pool) : Nat := p.workers.countP Worker.isBusy

/-- The workers with a task, and the first in line. -/
def atWork (p : Pool) : List WorkerId :=
  (p.workers.zipIdx.filter fun (x, w) => x.isBusy || p.line.head? == some w).map (·.2)

/-- Whether every worker has left. -/
def isDrained (p : Pool) : Bool := p.workers.all Worker.isStopped

def accept (p : Pool) (t : Task) : Pool := { p with queue := p.queue ++ [t] }

/-- Accepts no more tasks. -/
def close (p : Pool) : Pool := { p with accepting := false }

def set (p : Pool) (w : WorkerId) (worker : Worker) : Pool :=
  { p with workers := p.workers.set w worker }

/-- What the first worker in line can do. -/
inductive Chance
  | take (t : Task)
  | leave
  | wait

def chance (p : Pool) : Chance :=
  match p.queue with
  | t :: _ => .take t
  | [] => if p.accepting then .wait else .leave

/-- The first worker in line takes the oldest task. -/
def take (p : Pool) : Pool := { p with queue := p.queue.tail, line := p.line.tail }

/-- The first worker in line leaves for good. -/
def leave (p : Pool) (w : WorkerId) : Pool := { p with line := p.line.tail }.set w .stopped

/-- A worker is done with its task. -/
def rejoin (p : Pool) (w : WorkerId) : Pool := { p with line := p.line ++ [w] }.set w .inLine

end Pool
end SpaceGateway
