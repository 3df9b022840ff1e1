import SpaceGateway.Codec.Framed
import SpaceGateway.Proofs.Reachability
/-!
A pool of workers that is used directly, by callers who hold the servers themselves. Whatever becomes
of the servers, its tasks are started in the order in which they were accepted, each of them once, and
no worker leaves while one of them is in the queue.
-/
namespace SpaceGateway

/-- All that can happen to a pool whose servers and callers are the business of others. -/
inductive Shift
  | submit (server : ServerId) (caller : CallerId) (r : CallerRequest)
  | shutDown
  | returnFrom (i : Nat)
  /-- A step of a worker that needs no answer. -/
  | work (w : WorkerId)
  /-- The network answers a worker. -/
  | answer (w : WorkerId) (a : Answer)
  /-- The servers and the callers change in any way. -/
  | elsewhere (registry : Registry) (departed : List CallerId)

/-- Whether a worker runs a task of a caller. -/
def Worker.isOf (caller : CallerId) : Worker → Bool
  | busy t _ => t.caller == caller
  | _ => false

/-- How many tasks that are queued or run hold the handle of a caller. -/
def Pool.handles (p : Pool) (caller : CallerId) : Nat :=
  p.queue.countP (·.caller == caller) + p.workers.countP (Worker.isOf caller)

/-- How many hold a server. -/
def Registry.holders (r : Registry) (server : ServerId) : Nat :=
  r.servers[server]?.elim 0 (·.holders)

namespace Ledger

/-- `n` free workers, before anything has happened to them. The servers are of any kind. -/
def opening (g : Gateway) (n : Nat) : Ledger :=
  { gateway := { g with pool := .ofSize n, shutdowns := [] } }

/-- Takes note of a task that is handed in for a server. -/
def handIn (l : Ledger) (server : ServerId) (caller : CallerId) (r : CallerRequest) : Ledger :=
  let (result, next) := l.gateway.submit server caller r
  let k := l.orders.length
  { l.note (some k) next with
    orders := l.orders ++ [⟨caller, r, if result.isOk then some server else none⟩]
    waiting := if result.isOk then l.waiting ++ [k] else l.waiting }

def shift (l : Ledger) : Shift → Ledger
  | .submit server caller r => l.handIn server caller r
  | .shutDown => l.move .shutDown
  | .returnFrom i => l.move (.returnFrom i)
  | .work w => l.move (.work w)
  | .answer w a => l.move (.answer w a)
  | .elsewhere registry departed => { l with gateway := { l.gateway with registry, departed } }

/-- Whether something can happen now. -/
def Permits (l : Ledger) : Shift → Prop
  | .returnFrom i => l.gateway.mayReturn i = true
  | .work w => l.gateway.workerNeed w = .nothing
  | .answer w _ => ∃ d, l.gateway.workerNeed w = .answer d
  | _ => True

/-- One thing after the other. -/
def shiftAll (l : Ledger) (shifts : List Shift) : Ledger := shifts.foldl shift l

def PermitsAll (l : Ledger) : List Shift → Prop
  | [] => True
  | s :: rest => l.Permits s ∧ PermitsAll (l.shift s) rest

end Ledger

/-- What a pool can come to. -/
inductive Shifts (l : Ledger) : Ledger → Prop
  | refl : Shifts l l
  | snoc {m : Ledger} {s : Shift} (shifts : Shifts l m) (permitted : m.Permits s) :
    Shifts l (m.shift s)

theorem shifts_shiftAll {l m : Ledger} {shifts : List Shift} (h : Shifts l m)
    (hp : m.PermitsAll shifts) : Shifts l (m.shiftAll shifts) := by
  induction shifts generalizing m with
  | nil => exact h
  | cons s rest ih => exact ih (.snoc h hp.1) hp.2

/-- All that a step can make of a pool. -/
inductive Pool.Steps (p : Pool) : Pool → Prop
  | same : Steps p p
  | accepts (t : Task) (accepting : p.accepting = true) : Steps p (p.accept t)
  | closes : Steps p p.close
  | attends {w : WorkerId} {taking : Bool} (ready : p.Ready w taking) (t : Task)
    (call? : Option Call) : Steps p (p.attended taking w t call?)
  | leaves {w : WorkerId} (worker : p.workers[w]? = some .inLine) (queue : p.queue = [])
    (closed : p.accepting = false) : Steps p (p.leave w)

section Pools
variable {p p' : Pool} {w : WorkerId}

theorem accepting_attended (taking : Bool) (w : WorkerId) (t : Task) (call? : Option Call) :
    (p.attended taking w t call?).accepting = p.accepting := by
  cases taking <;> cases call? <;> rfl

theorem Pool.Steps.length (h : p.Steps p') : p'.workers.length = p.workers.length := by
  cases h with
  | same | accepts | closes => rfl
  | attends => simp [workers_attended]
  | leaves => simp [Pool.leave, Pool.set]

/-- A pool that is closed stays so, and then its queue only gets shorter. -/
theorem Pool.Steps.closed (h : p.Steps p') (hc : p.accepting = false) :
    p'.accepting = false ∧ (p.queue = [] → p'.queue = []) := by
  cases h with
  | same => exact ⟨hc, id⟩
  | accepts t ha => simp [ha] at hc
  | closes => exact ⟨rfl, id⟩
  | attends ready t call? =>
    refine ⟨(accepting_attended ..).trans hc, ?_⟩
    intro hq
    rw [queue_attended, hq]
    split <;> rfl
  | leaves => exact ⟨hc, id⟩

theorem Pool.Steps.stopped (h : p.Steps p') (hw : p'.workers[w]? = some .stopped) :
    p.workers[w]? = some .stopped ∨ p.accepting = false ∧ p.queue = [] := by
  cases h with
  | same | accepts | closes => exact .inl hw
  | @attends w' taking ready t call? =>
    rw [workers_attended] at hw
    by_cases he : w' = w
    · subst he
      rw [List.getElem?_set_self ready.lt] at hw
      cases call? <;> cases hw
    · rw [List.getElem?_set_ne he] at hw
      exact .inl hw
  | leaves _ hq hc => exact .inr ⟨hc, hq⟩

/-- Whoever has left stays away. -/
theorem Pool.Steps.left (h : p.Steps p') (hw : p.workers[w]? = some .stopped) :
    p'.workers[w]? = some .stopped := by
  have hne {w' : WorkerId} (hr : p.workers[w']? ≠ some .stopped) : w' ≠ w := by
    intro he
    exact hr (he ▸ hw)
  cases h with
  | same | accepts | closes => exact hw
  | attends ready t call? =>
    rw [workers_attended, List.getElem?_set_ne, hw]
    apply hne
    cases ready with
    | taking hi => simp [hi]
    | running _ _ hb => simp [hb]
  | leaves hi =>
    simp only [Pool.leave, Pool.set]
    rw [List.getElem?_set_ne, hw]
    exact hne (by simp [hi])

theorem worker_stopped (h : p.isDrained = true) {worker : Worker}
    (hw : p.workers[w]? = some worker) : worker = .stopped := by
  have hs := List.all_eq_true.1 h worker (List.mem_of_getElem? hw)
  cases worker with
  | stopped => rfl
  | inLine | busy => cases hs

/-- A pool that all workers have left stays empty. -/
theorem Pool.Steps.isDrained (h : p.Steps p') (hd : p.isDrained = true) : p'.isDrained = true := by
  refine List.all_eq_true.2 fun worker hm => ?_
  obtain ⟨w, hw⟩ := List.mem_iff_getElem?.1 hm
  obtain ⟨hlt, -⟩ := List.getElem?_eq_some_iff.1 hw
  rw [h.length] at hlt
  have hold := List.getElem?_eq_getElem hlt
  rw [worker_stopped hd hold] at hold
  rw [h.left hold] at hw
  cases hw
  rfl

end Pools

section Workers
variable {g : Gateway} {l : Ledger} {w : WorkerId} {k : Ticket} {t : Task} {taking : Bool}

theorem proceed_pool (s : Step) :
    (g.proceed w t s).1.pool = g.pool.attended false w t (t.call? s) := by
  cases hs : s.status with
  | going call =>
    have hc : t.call? s = some call := by simp [Task.call?, hs]
    rw [proceed_going hs, hc]
    rfl
  | done r =>
    cases hf : (t.conclude r).follow with
    | some sub =>
      have hc : t.call? s = some (.looking ⟨t.node, sub, true⟩) := by simp [Task.call?, hs, hf]
      rw [proceed_follow hs hf, hc]
      rfl
    | none =>
      have hc : t.call? s = none := by simp [Task.call?, hs, hf]
      rw [proceed_over hs hf, hc]
      rfl

theorem begin_pool : ∃ call?, (g.begin w t).1.pool = g.pool.attended false w t call? := by
  unfold Gateway.begin
  split
  · exact ⟨none, rfl⟩
  · split
    · exact ⟨_, proceed_pool _⟩
    · exact ⟨_, proceed_pool _⟩

theorem proceed_shutdowns (s : Step) : (g.proceed w t s).1.shutdowns = g.shutdowns := by
  unfold Gateway.proceed
  split
  · rfl
  · dsimp only
    split <;> rfl

theorem begin_shutdowns : (g.begin w t).1.shutdowns = g.shutdowns := by
  unfold Gateway.begin
  split
  · rfl
  · split <;> exact proceed_shutdowns _

theorem workerStep_shutdowns : (g.workerStep w).1.shutdowns = g.shutdowns := by
  unfold Gateway.workerStep
  split
  · split
    · split
      · rfl
      · rfl
      · exact begin_shutdowns
    · rfl
  · split
    · rfl
    · exact proceed_shutdowns _
  · rfl

theorem workerResume_shutdowns (a : Answer) : (g.workerResume w a).1.shutdowns = g.shutdowns := by
  unfold Gateway.workerResume
  split
  · split
    · rfl
    · exact proceed_shutdowns _
  · rfl

/-- A worker whose server is not there keeps its task. -/
theorem attended_self {p : Pool} {call : Call} (hw : p.workers[w]? = some (.busy t call)) :
    p.attended false w t (some call) = p := by
  obtain ⟨hlt, hb⟩ := List.getElem?_eq_some_iff.1 hw
  simp [Pool.attended, Pool.set, ← hb]

namespace Ledger

theorem Faces.step_pool (hf : l.Faces w k t taking) :
    ∃ call?, (l.gateway.workerStep w).1.pool = l.gateway.pool.attended taking w t call? := by
  cases hf with
  | taking rest queue hh hw hl hr hq ht =>
    obtain ⟨call?, hb⟩ := @begin_pool { l.gateway with pool := l.gateway.pool.take } w t
    refine ⟨call?, ?_⟩
    simp only [Gateway.workerStep, hw, hl, Pool.chance, hq, if_true]
    exact hb
  | running call hh hw ht =>
    cases hc : l.gateway.client? t.server with
    | none =>
      refine ⟨some call, ?_⟩
      simp only [Gateway.workerStep, hw, hc]
      exact (attended_self hw).symm
    | some c =>
      refine ⟨t.call? (call.step l.gateway.codec.parser c w), ?_⟩
      simp only [Gateway.workerStep, hw, hc]
      exact proceed_pool _

theorem Faces.resume_pool (hf : l.Faces w k t false) (a : Answer) :
    ∃ call?, (l.gateway.workerResume w a).1.pool = l.gateway.pool.attended false w t call? := by
  cases hf with
  | running call hh hw ht =>
    cases hc : l.gateway.client? t.server with
    | none =>
      refine ⟨some call, ?_⟩
      simp only [Gateway.workerResume, hw, hc]
      exact (attended_self hw).symm
    | some c =>
      refine ⟨t.call? (call.resume l.gateway.codec.parser c w a), ?_⟩
      simp only [Gateway.workerResume, hw, hc]
      exact proceed_pool _

end Ledger
end Workers

section Requests
variable {g : Gateway} {l : Ledger} {server : ServerId} {caller : CallerId} {r : CallerRequest}

theorem submit_closed (h : g.pool.accepting = false) :
    g.submit server caller r =
      (.error .closed, g, [.log (.taskReleased r.access r.operation.transaction)]) := by
  simp [Gateway.submit, h]

theorem submit_accepting (h : g.pool.accepting = true) :
    (g.submit server caller r).1 = .ok () ∧
      (g.submit server caller r).2.1 =
        { g with
          registry := g.registry.hold server
          pool := g.pool.accept (.ofRequest server caller r) } := by
  simp [Gateway.submit, h]

/-- A reference that is given back at once leaves no trace. -/
theorem letGo_hold {registry : Registry} {sv : Server} (h : registry.servers[server]? = some sv)
    (hs : sv.isAlive = true) : (registry.hold server).letGo server = (registry, []) := by
  obtain ⟨hlt, hget⟩ := List.getElem?_eq_some_iff.1 h
  have hh : sv.holders ≠ 0 := by simpa [Server.isAlive] using hs
  have hold : (registry.hold server).servers[server]? = some sv.hold := by
    simp [Registry.hold, Registry.modify, h]
  have hback : sv.hold.letGo = (sv, []) := by simp [Server.hold, Server.letGo, hh]
  simp only [Registry.letGo, hold, hback]
  simp [Registry.hold, Registry.modify, List.modify_eq_set_getElem?, h, ← hget]

namespace Ledger

theorem handIn_closed (h : l.gateway.pool.accepting = false) :
    l.handIn server caller r = { l with
      gateway := l.gateway
      orders := l.orders ++ [⟨caller, r, none⟩]
      waiting := l.waiting
      history := l.history ++
        [(some l.orders.length, .log (.taskReleased r.access r.operation.transaction))] } := by
  simp [handIn, note, submit_closed h, Except.isOk, Except.toBool]

theorem handIn_accepting (h : l.gateway.pool.accepting = true) :
    l.handIn server caller r = { l with
      gateway := (l.gateway.submit server caller r).2.1
      orders := l.orders ++ [⟨caller, r, some server⟩]
      waiting := l.waiting ++ [l.orders.length]
      history := l.history ++
        (l.gateway.submit server caller r).2.2.map (some l.orders.length, ·) } := by
  simp [handIn, note, (submit_accepting h).1, Except.isOk, Except.toBool]

theorem Tidy.handIn (h : l.Tidy) :
    (l.handIn server caller r).Tidy ∧
      l.gateway.pool.Steps (l.handIn server caller r).gateway.pool := by
  cases ha : l.gateway.pool.accepting with
  | false =>
    rw [handIn_closed ha]
    exact ⟨h.append _ rfl rfl (List.append_nil _).symm (List.append_nil _).symm, .same⟩
  | true =>
    have hg := (@submit_accepting _ server caller r ha).2
    rw [handIn_accepting ha, hg]
    exact ⟨h.append _ rfl rfl rfl rfl, .accepts _ ha⟩

end Ledger
end Requests

namespace Ledger

section Shifting
variable {l l' : Ledger} {s : Shift} {w : WorkerId} {k : Ticket} {g : Gateway} {n : Nat}

theorem Tidy.queue_empty (h : l.Tidy) (hw : l.waiting = []) : l.gateway.pool.queue = [] := by
  have hq := h.queue
  rw [hw, List.map_nil, List.map_eq_nil_iff] at hq
  exact hq

/-- A worker in line is about to take a task if there is one. -/
theorem waiting_of_idle (hk : l.ticket? w = none)
    (hw : l.gateway.pool.workers[w]? = some .inLine) (hl : l.gateway.pool.line.head? = some w) :
    l.waiting = [] := by
  simpa [ticket?, hw, hl] using hk

theorem Tidy.work (h : l.Tidy) (w : WorkerId) :
    (l.shift (.work w)).Tidy ∧ l.gateway.pool.Steps (l.shift (.work w)).gateway.pool := by
  change (l.worked w _ _).Tidy ∧ l.gateway.pool.Steps (l.worked w _ _).gateway.pool
  unfold worked
  cases hk : l.ticket? w with
  | some k =>
    obtain ⟨t, taking, hf⟩ := h.faces hk
    obtain ⟨call?, hp⟩ := hf.step_pool
    refine ⟨h.attend hf hp _, ?_⟩
    change l.gateway.pool.Steps (l.gateway.workerStep w).1.pool
    rw [hp]
    exact .attends hf.ready t call?
  | none =>
    dsimp only
    rcases workerStep_idle h hk with he | ⟨hw, hl, he⟩
    · rw [he]
      exact ⟨h.note rfl, .same⟩
    · have hq := h.queue_empty (waiting_of_idle hk hw hl)
      have hc : l.gateway.pool.accepting = false := by
        cases ha : l.gateway.pool.accepting with
        | false => rfl
        | true => simp [Gateway.workerStep, hw, hl, Pool.chance, hq, ha] at he
      rw [he]
      exact ⟨h.leave hw hl _, .leaves hw hq hc⟩

theorem Tidy.answer (h : l.Tidy) {a : Answer} (hs : l.Permits (.answer w a)) :
    (l.shift (.answer w a)).Tidy ∧
      l.gateway.pool.Steps (l.shift (.answer w a)).gateway.pool := by
  obtain ⟨d, hd⟩ := hs
  change (l.worked w _ _).Tidy ∧ l.gateway.pool.Steps (l.worked w _ _).gateway.pool
  unfold worked
  cases hk : l.ticket? w with
  | some k =>
    obtain ⟨t, taking, hf⟩ := h.faces hk
    cases taking with
    | true =>
      cases hf with
      | taking rest queue hh hw => exact (workerNeed_inLine hw hd).elim
    | false =>
      obtain ⟨call?, hp⟩ := hf.resume_pool a
      refine ⟨h.attend hf hp _, ?_⟩
      change l.gateway.pool.Steps (l.gateway.workerResume w a).1.pool
      rw [hp]
      exact .attends hf.ready t call?
  | none =>
    dsimp only
    rw [workerResume_idle h hk]
    exact ⟨h.note rfl, .same⟩

theorem returnFrom_pool (g : Gateway) (i : Nat) : (g.returnFrom i).1.pool = g.pool := by
  unfold Gateway.returnFrom
  split <;> rfl

/-- Whatever happens keeps the books right, and the pool makes one of its steps. -/
theorem Tidy.shift (h : l.Tidy) (hs : l.Permits s) :
    (l.shift s).Tidy ∧ l.gateway.pool.Steps (l.shift s).gateway.pool := by
  cases s with
  | submit server caller r => exact h.handIn
  | shutDown =>
    exact ⟨h.rebase _ ⟨h.pool.nodup, h.pool.mem_line⟩ rfl (fun _ _ _ => Iff.rfl) rfl, .closes⟩
  | returnFrom i =>
    have hp := returnFrom_pool l.gateway i
    refine ⟨h.note hp, ?_⟩
    change l.gateway.pool.Steps (l.gateway.returnFrom i).1.pool
    rw [hp]
    exact .same
  | work w => exact h.work w
  | answer w a => exact h.answer hs
  | elsewhere registry departed =>
    exact ⟨h.rebase _ h.pool rfl (fun _ _ _ => Iff.rfl) rfl, .same⟩

/-- The books of a pool of `n` workers are right, and none of them has left while there was more to
come. -/
structure Manned (n : Nat) (l : Ledger) : Prop where
  tidy : l.Tidy
  size : l.gateway.pool.workers.length = n
  left : ∀ w : WorkerId, l.gateway.pool.workers[w]? = some .stopped →
    l.gateway.pool.accepting = false ∧ l.gateway.pool.queue = []

theorem manned_opening : (opening g n).Manned n := by
  have hworker (w : WorkerId) : (Pool.ofSize n).workers[w]? =
      if w < n then some .inLine else none := List.getElem?_replicate
  have hactive : (Pool.ofSize n).active = 0 := by
    simp [Pool.active, Pool.ofSize, List.countP_replicate, Worker.isBusy]
  refine ⟨⟨⟨List.nodup_range, ?_⟩, rfl, rfl, ?_, ?_, ?_, ?_, ?_, List.nodup_nil, ?_, fun _ _ => rfl⟩,
    List.length_replicate, ?_⟩
  · intro w
    change w ∈ List.range n ↔ (Pool.ofSize n).workers[w]? = _
    rw [hworker]
    simp
  · intro w k hk
    cases hk
  · intro w t call hb
    rw [show (opening g n).gateway.pool = .ofSize n from rfl, hworker] at hb
    split at hb <;> cases hb
  · intro w w' k hk
    cases hk
  · simp [opening]
  · simp [opening]
  · exact congrArg (· + 0) hactive
  · intro w hw
    rw [show (opening g n).gateway.pool = .ofSize n from rfl, hworker] at hw
    split at hw <;> cases hw

theorem Manned.shift (h : l.Manned n) (hs : l.Permits s) : (l.shift s).Manned n := by
  obtain ⟨htidy, hsteps⟩ := h.tidy.shift hs
  refine ⟨htidy, hsteps.length.trans h.size, ?_⟩
  intro w hw
  have hc : l.gateway.pool.accepting = false ∧ l.gateway.pool.queue = [] := by
    rcases hsteps.stopped hw with hw | hc
    · exact h.left w hw
    · exact hc
  have hclosed := hsteps.closed hc.1
  exact ⟨hclosed.1, hclosed.2 hc.2⟩

theorem Manned.first_stopped (h : l.Manned n) (hn : 0 < n)
    (hd : l.gateway.pool.isDrained = true) : l.gateway.pool.workers[0]? = some .stopped := by
  rw [← h.size] at hn
  have hw := List.getElem?_eq_getElem hn
  rw [hw, worker_stopped hd hw]

theorem Manned.run (h : l.Manned n) (run : Shifts l l') : l'.Manned n := by
  induction run with
  | refl => exact h
  | snoc _ permitted ih => exact ih.shift permitted

end Shifting

/-- How a pool of `n` workers goes about the tasks it accepts. -/
structure GoesInOrder (n : Nat) (l : Ledger) : Prop where
  /-- Tasks are started in the order in which they were accepted, each of them once. -/
  order : l.taken <+: l.accepted
  once : l.taken.Nodup ∧ l.released.Nodup ∧ ∀ k ∈ l.released, k ∈ l.taken
  /-- The others are in the queue. -/
  queue : l.gateway.pool.queue.map some = (l.accepted.drop l.taken.length).map l.task?
  /-- A busy worker runs a task that was started, and no other worker runs it. -/
  runs : ∀ (w : WorkerId) t call, l.gateway.pool.workers[w]? = some (.busy t call) →
    ∃ k ∈ l.taken, l.task? k = some t ∧ k ∉ l.released ∧ ∀ w', l.hands w' = some k ↔ w' = w
  /-- Until the pool is closed every task is accepted. It refers to its server and its caller. -/
  accepts : l.gateway.pool.accepting = true → ∀ server caller r,
    let m := l.shift (.submit server caller r)
    (l.gateway.submit server caller r).1 = .ok () ∧
      m.accepted = l.accepted ++ [l.orders.length] ∧
      m.gateway.pool.queue = l.gateway.pool.queue ++ [.ofRequest server caller r] ∧
      m.gateway.pool.handles caller = l.gateway.pool.handles caller + 1 ∧
      (server < l.gateway.registry.servers.length →
        m.gateway.registry.holders server = l.gateway.registry.holders server + 1)
  /-- From then on none is. The queue and the references stay as they were, since the ones that the
  task took are given back at once. -/
  rejects : l.gateway.pool.accepting = false → ∀ server caller r,
    let m := l.shift (.submit server caller r)
    (l.gateway.submit server caller r).1 = .error .closed ∧ m.accepted = l.accepted ∧
      m.gateway.pool.queue = l.gateway.pool.queue ∧
      m.gateway.pool.handles caller = l.gateway.pool.handles caller ∧
      m.gateway.registry.holders server = l.gateway.registry.holders server ∧
      (0 < l.gateway.registry.holders server →
        (l.gateway.registry.hold server).letGo server = (m.gateway.registry, []))
  closed : l.gateway.pool.accepting = false → ∀ l', Shifts l l' →
    l'.gateway.pool.accepting = false ∧ l'.accepted = l.accepted
  /-- Once a worker has left, all tasks that were accepted have been started. -/
  left : ∀ w : WorkerId, l.gateway.pool.workers[w]? = some .stopped →
    l.gateway.pool.accepting = false ∧ l.gateway.pool.queue = [] ∧ l.taken = l.accepted
  drained : l.gateway.pool.isDrained = true → l.taken = l.accepted
  /-- As long as there are tasks in the queue, all workers are busy or one can start the next. -/
  goesOn : l.gateway.pool.queue ≠ [] →
    (∀ w < n, ∃ t call, l.gateway.pool.workers[w]? = some (.busy t call)) ∨
      ∃ w k, l.Permits (.work w) ∧ (l.shift (.work w)).taken = l.taken ++ [k] ∧
        l.taken ++ [k] <+: l.accepted

section Ordering
variable {l l' : Ledger} {n : Nat} {g : Gateway}

theorem handles_accept (p : Pool) (t : Task) :
    (p.accept t).handles t.caller = p.handles t.caller + 1 := by
  simp [Pool.handles, Pool.accept, Nat.add_right_comm]

theorem holders_hold {r : Registry} {server : ServerId} (h : server < r.servers.length) :
    (r.hold server).holders server = r.holders server + 1 := by
  simp [Registry.holders, Registry.hold, Registry.modify, Server.hold, h]

theorem letGo_hold_of_holders {r : Registry} {server : ServerId} (h : 0 < r.holders server) :
    (r.hold server).letGo server = (r, []) := by
  unfold Registry.holders at h
  cases hs : r.servers[server]? with
  | none => simp [hs] at h
  | some sv =>
    rw [hs] at h
    exact letGo_hold hs (by simpa [Server.isAlive] using Nat.ne_of_gt h)

/-- A pool that is closed accepts nothing more. -/
theorem closed_shift (h : l.gateway.pool.accepting = false)
    (hsteps : l.gateway.pool.Steps (l.shift s).gateway.pool) :
    (l.shift s).gateway.pool.accepting = false ∧ (l.shift s).accepted = l.accepted := by
  refine ⟨(hsteps.closed h).1, ?_⟩
  cases s with
  | submit server caller r =>
    change (l.handIn server caller r).accepted = _
    rw [handIn_closed h, accepted_append rfl]
    exact List.append_nil _
  | work w | answer w a =>
    change (l.worked w _ _).accepted = _
    unfold worked
    split <;> rfl
  | shutDown | returnFrom | elsewhere => rfl

theorem Manned.closed (h : l.Manned n) (run : Shifts l l')
    (hc : l.gateway.pool.accepting = false) :
    l'.gateway.pool.accepting = false ∧ l'.accepted = l.accepted := by
  induction run with
  | refl => exact ⟨hc, rfl⟩
  | snoc run permitted ih =>
    have hs := closed_shift ih.1 ((h.run run).tidy.shift permitted).2
    exact ⟨hs.1, hs.2.trans ih.2⟩

/-- With nothing in the queue all tasks have been started. -/
theorem Tidy.taken_eq (h : l.Tidy) (hq : l.gateway.pool.queue = []) : l.taken = l.accepted := by
  have hw := h.queue
  rw [hq, List.map_nil, eq_comm, List.map_eq_nil_iff] at hw
  rw [← h.accepted, hw, List.append_nil]

/-- The first in line takes the oldest task. -/
theorem Tidy.takes (h : l.Tidy) (hw : w ∈ l.gateway.pool.line.head?)
    (hq : l.gateway.pool.queue ≠ []) :
    ∃ k, l.Permits (.work w) ∧ (l.shift (.work w)).taken = l.taken ++ [k] ∧
      l.taken ++ [k] <+: l.accepted := by
  have hline : l.gateway.pool.workers[w]? = some .inLine :=
    (h.pool.mem_line w).1 (List.mem_of_mem_head? hw)
  obtain ⟨t, queue, hqueue⟩ := List.exists_cons_of_ne_nil hq
  have hlen := congrArg List.length h.queue
  cases hr : l.waiting with
  | nil => simp [hr, hqueue] at hlen
  | cons k rest =>
    have hk : l.ticket? w = some k := by simpa [ticket?, hline, hr] using hw
    have hhand : l.hands w = none := by
      obtain ⟨t, taking, hf⟩ := h.faces hk
      cases hf with
      | taking _ _ hh => exact hh
      | running call _ hb => simp [hline] at hb
    refine ⟨k, ?_, ?_, rest, ?_⟩
    · change l.gateway.workerNeed w = .nothing
      simp only [Gateway.workerNeed, hline, Option.mem_def.1 hw, Pool.chance, hqueue, if_true]
    · change (l.worked w _ _).taken = _
      simp [worked, hk, Ledger.attend, hhand]
    · rw [← h.accepted, hr]
      simp

theorem Manned.goesOn (h : l.Manned n) (hq : l.gateway.pool.queue ≠ []) :
    (∀ w < n, ∃ t call, l.gateway.pool.workers[w]? = some (.busy t call)) ∨
      ∃ w k, l.Permits (.work w) ∧ (l.shift (.work w)).taken = l.taken ++ [k] ∧
        l.taken ++ [k] <+: l.accepted := by
  cases hl : l.gateway.pool.line with
  | cons w rest =>
    obtain ⟨k, hk⟩ := h.tidy.takes (w := w) (by simp [hl]) hq
    exact .inr ⟨w, k, hk⟩
  | nil =>
    left
    intro w hw
    rw [← h.size] at hw
    have hworker := List.getElem?_eq_getElem hw
    cases hwork : l.gateway.pool.workers[w] with
    | busy t call => exact ⟨t, call, hwork ▸ hworker⟩
    | stopped => exact (hq (h.left w (hwork ▸ hworker)).2).elim
    | inLine =>
      have hm := (h.tidy.pool.mem_line w).2 (hwork ▸ hworker)
      simp [hl] at hm

theorem Manned.runs (h : l.Manned n) {w : WorkerId} {t : Task} {call : Call}
    (hw : l.gateway.pool.workers[w]? = some (.busy t call)) :
    ∃ k ∈ l.taken, l.task? k = some t ∧ k ∉ l.released ∧ ∀ w', l.hands w' = some k ↔ w' = w := by
  obtain ⟨k, hk⟩ := h.tidy.busy w t call hw
  obtain ⟨t', call', hb, ht⟩ := h.tidy.hand w k hk
  obtain ⟨htaken, hr⟩ := (h.tidy.held k).1 ⟨w, hk⟩
  rw [hw] at hb
  cases hb
  refine ⟨k, htaken, ht, hr, fun w' => ⟨fun hk' => h.tidy.alone w' w k hk' hk, ?_⟩⟩
  rintro rfl
  exact hk

/-- Whatever a pool is asked to do and whatever its workers get to see, it starts the tasks that it
accepts in their order, each of them once, and all of them before a worker leaves. -/
theorem goes_in_order (hn : 0 < n) (h : Shifts (opening g n) l) : l.GoesInOrder n := by
  have hm := manned_opening.run h
  have hstarted : l.taken ++ l.waiting = l.accepted := hm.tidy.accepted
  refine ⟨⟨_, hstarted⟩, ⟨?_, hm.tidy.once, hm.tidy.done⟩, ?_, fun _ _ _ => hm.runs, ?_, ?_,
    fun hc _ run => hm.closed run hc, ?_, ?_, hm.goesOn⟩
  · exact (hstarted ▸ nodup_accepted).of_append_left
  · rw [← hstarted, List.drop_left]
    exact hm.tidy.queue
  · intro ha server caller r
    obtain ⟨hok, hg⟩ := @submit_accepting _ server caller r ha
    refine ⟨hok, ?_, ?_, ?_, ?_⟩ <;> dsimp only [shift]
    · rw [handIn_accepting ha, accepted_append rfl]
      rfl
    · rw [handIn_accepting ha, hg]
      rfl
    · rw [handIn_accepting ha, hg]
      exact handles_accept _ _
    · intro hlt
      rw [handIn_accepting ha, hg]
      exact holders_hold hlt
  · intro hc server caller r
    have hrejected := @submit_closed _ server caller r hc
    refine ⟨by rw [hrejected], (closed_shift (s := .submit server caller r) hc hm.tidy.handIn.2).2, ?_⟩
    dsimp only [shift]
    rw [handIn_closed hc]
    exact ⟨rfl, rfl, rfl, letGo_hold_of_holders⟩
  · intro w hw
    obtain ⟨hc, hq⟩ := hm.left w hw
    exact ⟨hc, hq, hm.tidy.taken_eq hq⟩
  · intro hd
    obtain ⟨-, hq⟩ := hm.left 0 (hm.first_stopped hn hd)
    exact hm.tidy.taken_eq hq

/-- A gateway that knows one server. -/
def hosting : Gateway :=
  ((Gateway.start Framed.codec {}).1.discover (.added ⟨"space", "", ⟨"host", 1⟩⟩)).1

def askToJoin : CallerRequest := ⟨"space", "node", "mark", 1, .join⟩

/-- The pool is closed while its worker runs the first of two tasks. A third one is rejected, the
first one fails, and the second one is started. -/
def closedAtWork : List Shift :=
  [.submit 0 "caller" askToJoin, .submit 0 "caller" askToJoin, .work 0, .shutDown,
    .submit 0 "caller" askToJoin, .answer 0 (.failed "refused"), .work 0]

theorem goes_in_order_when_closed_at_work :
    ((opening hosting 1).shiftAll closedAtWork).GoesInOrder 1 := by
  refine goes_in_order Nat.one_pos (shifts_shiftAll .refl ?_)
  exact ⟨trivial, trivial, rfl, trivial, trivial, ⟨_, rfl⟩, rfl, trivial⟩

example :
    let l := (opening hosting 1).shiftAll closedAtWork
    l.accepted = [0, 1] ∧ l.taken = [0, 1] ∧ l.released = [0] := by
  exact ⟨rfl, rfl, rfl⟩

end Ordering
end Ledger
end SpaceGateway
