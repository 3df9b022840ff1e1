import SpaceGateway.Proofs.Attendance
/-!
The books of a ledger agree with its gateway: the queue holds the tasks of the waiting tickets, each
busy worker runs the task of the ticket in its hands, and every accepted ticket waits, runs or is
over, in the order of acceptance.
-/
namespace SpaceGateway

/-- Each free worker stands in line once. -/
structure Pool.Sound (p : Pool) : Prop where
  nodup : p.line.Nodup
  mem_line : ∀ w, w ∈ p.line ↔ p.workers[w]? = some .inLine

section Pools
variable {p : Pool} {w w' : WorkerId} {t : Task} {call? : Option Call} {taking : Bool}

/-- How a pool has a worker before a step for a task. -/
inductive Pool.Ready (p : Pool) (w : WorkerId) : Bool → Prop
  | taking (worker : p.workers[w]? = some .inLine) (line : p.line.head? = some w) : Ready p w true
  | running (t call) (worker : p.workers[w]? = some (.busy t call)) : Ready p w false

theorem Pool.Ready.lt (h : p.Ready w taking) : w < p.workers.length := by
  cases h with
  | taking hw hl => exact (List.getElem?_eq_some_iff.1 hw).1
  | running t call hw => exact (List.getElem?_eq_some_iff.1 hw).1

/-- The worker of a step after it. -/
def workerAfter (t : Task) (call? : Option Call) : Worker := call?.elim .inLine (.busy t)

theorem workers_attended :
    (p.attended taking w t call?).workers = p.workers.set w (workerAfter t call?) := by
  cases taking <;> cases call? <;> rfl

theorem line_attended :
    (p.attended taking w t call?).line =
      (if taking then p.line.tail else p.line) ++ (if call?.isSome then [] else [w]) := by
  cases taking <;> cases call? <;> simp [Pool.attended, Pool.take, Pool.set, Pool.rejoin]

theorem queue_attended :
    (p.attended taking w t call?).queue = if taking then p.queue.tail else p.queue := by
  cases taking <;> cases call? <;> rfl

/-- The line without the worker that makes the step. -/
theorem Pool.Ready.line (h : p.Ready w taking) (hp : p.Sound) :
    (if taking then p.line.tail else p.line).Nodup ∧
      w ∉ (if taking then p.line.tail else p.line) ∧
      ∀ w', w' ≠ w → (w' ∈ (if taking then p.line.tail else p.line) ↔ w' ∈ p.line) := by
  cases h with
  | taking hw hl =>
    cases hline : p.line with
    | nil => simp [hline] at hl
    | cons x rest =>
      rw [hline] at hl
      cases hl
      have hn := hp.nodup
      rw [hline] at hn
      obtain ⟨hx, hn⟩ := List.nodup_cons.1 hn
      refine ⟨hn, hx, ?_⟩
      intro w' hne
      simp [hne]
  | running t call hw =>
    refine ⟨hp.nodup, ?_, fun _ _ => Iff.rfl⟩
    intro hm
    have := (hp.mem_line w).1 hm
    rw [hw] at this
    cases this

theorem Pool.Ready.sound (h : p.Ready w taking) (hp : p.Sound) :
    (p.attended taking w t call?).Sound := by
  obtain ⟨hn, hw, hm⟩ := h.line hp
  have hlt := h.lt
  refine ⟨?_, ?_⟩
  · rw [line_attended]
    cases call? with
    | some call => simpa using hn
    | none =>
      refine List.nodup_append.2 ⟨hn, by simp, ?_⟩
      intro a ha b hb he
      rw [List.mem_singleton.1 hb] at he
      exact hw (he ▸ ha)
  · intro w'
    rw [line_attended, workers_attended]
    by_cases he : w' = w
    · subst he
      cases call? with
      | some call => simpa [workerAfter, hlt] using hw
      | none => simp [workerAfter, hlt]
    · rw [List.getElem?_set_ne (Ne.symm he), ← hp.mem_line, ← hm w' he]
      cases call? <;> simp [he]

theorem Pool.Ready.active (h : p.Ready w taking) :
    (p.attended taking w t call?).active + (if taking then 0 else 1) =
      p.active + (if call?.isSome then 1 else 0) := by
  have hlt := h.lt
  have hpos : taking = false → 0 < p.active := by
    intro hf
    cases h with
    | taking => cases hf
    | running t call hw =>
      exact List.countP_pos_iff.2 ⟨_, List.mem_of_getElem? hw, rfl⟩
  unfold Pool.active at hpos ⊢
  rw [workers_attended, List.countP_set hlt]
  cases h with
  | taking hw hl =>
    obtain ⟨_, hb⟩ := List.getElem?_eq_some_iff.1 hw
    cases call? <;> simp [hb, workerAfter, Worker.isBusy]
  | running t call hw =>
    obtain ⟨_, hb⟩ := List.getElem?_eq_some_iff.1 hw
    have := hpos rfl
    cases call? <;> simp [hb, workerAfter, Worker.isBusy] <;> omega

end Pools

namespace Ledger

structure Tidy (l : Ledger) : Prop where
  pool : l.gateway.pool.Sound
  accepted : l.taken ++ l.waiting = l.accepted
  queue : l.gateway.pool.queue.map some = l.waiting.map l.task?
  hand : ∀ w k, l.hands w = some k →
    ∃ t call, l.gateway.pool.workers[w]? = some (.busy t call) ∧ l.task? k = some t
  busy : ∀ w t call, l.gateway.pool.workers[w]? = some (.busy t call) → ∃ k, l.hands w = some k
  alone : ∀ w w' k, l.hands w = some k → l.hands w' = some k → w = w'
  held : ∀ k, (∃ w, l.hands w = some k) ↔ k ∈ l.taken ∧ k ∉ l.released
  done : ∀ k ∈ l.released, k ∈ l.taken
  once : l.released.Nodup
  active : l.gateway.pool.active + l.released.length = l.taken.length
  idle : ∀ k, k ∉ l.taken → l.inputs k = []

/-- How a worker stands to a ticket it is about to make a step for: it takes the task from the queue,
or runs it already. -/
inductive Faces (l : Ledger) (w : WorkerId) (k : Ticket) (t : Task) : Bool → Prop
  | taking (rest queue) (hand : l.hands w = none)
    (worker : l.gateway.pool.workers[w]? = some .inLine)
    (line : l.gateway.pool.line.head? = some w) (waiting : l.waiting = k :: rest)
    (queue_eq : l.gateway.pool.queue = t :: queue) (task : l.task? k = some t) : Faces l w k t true
  | running (call) (hand : l.hands w = some k)
    (worker : l.gateway.pool.workers[w]? = some (.busy t call)) (task : l.task? k = some t) :
    Faces l w k t false

section Basics
variable {l : Ledger} {w : WorkerId} {k : Ticket} {t : Task} {taking : Bool}

theorem Faces.task (h : l.Faces w k t taking) : l.task? k = some t := by
  cases h <;> assumption

theorem nodup_accepted : l.accepted.Nodup := List.nodup_range.filter _

theorem mem_accepted : k ∈ l.accepted ↔ (l.task? k).isSome := by
  simp only [accepted, List.mem_filter, List.mem_range, and_iff_right_iff_imp]
  intro h
  by_contra hk
  simp [task?, List.getElem?_eq_none (Nat.le_of_not_lt hk)] at h

theorem Tidy.not_taken (h : l.Tidy) {rest : List Ticket} (hw : l.waiting = k :: rest) :
    k ∉ l.taken := by
  have hn : (l.taken ++ l.waiting).Nodup := h.accepted ▸ nodup_accepted
  rw [hw] at hn
  intro hk
  exact (List.nodup_append.1 hn).2.2 k hk k (by simp) rfl

theorem Tidy.faces (h : l.Tidy) (hk : l.ticket? w = some k) :
    ∃ t taking, l.Faces w k t taking := by
  unfold ticket? at hk
  split at hk
  · rename_i hw
    split at hk
    · rename_i hl
      obtain ⟨rest, hr⟩ : ∃ rest, l.waiting = k :: rest := by
        cases hr : l.waiting with
        | nil => rw [hr] at hk; cases hk
        | cons j rest =>
          rw [hr] at hk
          cases hk
          exact ⟨rest, rfl⟩
      have hq := h.queue
      rw [hr] at hq
      cases hqueue : l.gateway.pool.queue with
      | nil => simp [hqueue] at hq
      | cons t q =>
        simp only [hqueue, List.map_cons, List.cons.injEq] at hq
        have hh : l.hands w = none := by
          cases hh : l.hands w with
          | none => rfl
          | some j =>
            obtain ⟨t', call, hb, -⟩ := h.hand w j hh
            rw [hw] at hb
            cases hb
        exact ⟨t, true, .taking rest q hh hw hl hr hqueue hq.1.symm⟩
    · cases hk
  · rename_i hw
    obtain ⟨t, call, hb, ht⟩ := h.hand w k hk
    exact ⟨t, false, .running call hk hb ht⟩
  · cases hk

end Basics

section Attend
variable {l : Ledger} {w : WorkerId} {k : Ticket} {t : Task} {taking : Bool} {call? : Option Call}
variable {next : Gateway × List Event}

theorem Faces.ready (h : l.Faces w k t taking) : l.gateway.pool.Ready w taking := by
  cases h with
  | taking rest q hh hw hl => exact .taking hw hl
  | running call hh hw => exact .running t call hw

theorem Faces.hand (h : l.Faces w k t taking) : l.hands w = if taking then none else some k := by
  cases h with
  | taking rest q hh => simpa using hh
  | running call hh => simpa using hh

/-- The record of a step for a ticket, when the step is known. -/
theorem Faces.attend_eq (h : l.Faces w k t taking)
    (hp : next.1.pool = l.gateway.pool.attended taking w t call?) (i : Input) :
    l.attend w k i next =
      { l.note (some k) next with
        waiting := if taking then l.waiting.tail else l.waiting
        taken := if taking then l.taken ++ [k] else l.taken
        released := if call?.isSome then l.released else l.released ++ [k]
        hands := Function.update l.hands w (if call?.isSome then some k else none)
        inputs := Function.update l.inputs k (l.inputs k ++ [i])
        entered := l.entered ++
          (next.1.listings.filter (· ∉ l.gateway.listings)).map (k, ·) } := by
  have hbusy : next.1.pool.workers[w]?.any Worker.isBusy = call?.isSome := by
    rw [hp, workers_attended]
    cases call? <;> simp [h.ready.lt, workerAfter, Worker.isBusy]
  simp only [attend, hbusy, h.hand]
  cases taking <;> simp

theorem Tidy.task_mem (h : l.Tidy) (hf : l.Faces w k t taking) :
    k ∈ (if taking then l.taken ++ [k] else l.taken) ∧ k ∉ l.released := by
  cases hf with
  | taking rest q hh hw hl hr =>
    refine ⟨by simp, ?_⟩
    intro hk
    exact h.not_taken hr (h.done k hk)
  | running call hh =>
    have := (h.held k).1 ⟨w, hh⟩
    simpa using this

/-- The task of another ticket is another worker's. -/
theorem Faces.hands_ne (hf : l.Faces w k t taking) {k' : Ticket} (hne : k' ≠ k)
    {w' : WorkerId} (hh : l.hands w' = some k') : w' ≠ w := by
  intro he
  subst he
  rw [hf.hand] at hh
  cases taking with
  | true => cases hh
  | false => exact hne (Option.some.inj hh).symm

/-- No other worker runs the task. -/
theorem Tidy.hands_ne (h : l.Tidy) (hf : l.Faces w k t taking) {w' : WorkerId} (hne : w' ≠ w) :
    l.hands w' ≠ some k := by
  intro he
  cases hf with
  | taking rest q hh hw hl hr => exact h.not_taken hr ((h.held k).1 ⟨w', he⟩).1
  | running call hh => exact hne (h.alone w' w k he hh)

section Books
variable (h : l.Tidy) (hf : l.Faces w k t taking)
  (hp : next.1.pool = l.gateway.pool.attended taking w t call?)
include hf hp

theorem Faces.hands_self (i : Input) :
    (l.attend w k i next).hands w = if call?.isSome then some k else none := by
  rw [hf.attend_eq hp]
  exact Function.update_self ..

theorem Faces.hands_other (i : Input) {w' : WorkerId} (hne : w' ≠ w) :
    (l.attend w k i next).hands w' = l.hands w' := by
  rw [hf.attend_eq hp]
  exact Function.update_of_ne hne ..

theorem Faces.worker_self (i : Input) :
    (l.attend w k i next).gateway.pool.workers[w]? = some (workerAfter t call?) := by
  rw [hf.attend_eq hp]
  change next.1.pool.workers[w]? = _
  rw [hp, workers_attended, List.getElem?_set_self hf.ready.lt]

theorem Faces.worker_other (i : Input) {w' : WorkerId} (hne : w' ≠ w) :
    (l.attend w k i next).gateway.pool.workers[w']? = l.gateway.pool.workers[w']? := by
  rw [hf.attend_eq hp]
  change next.1.pool.workers[w']? = _
  rw [hp, workers_attended, List.getElem?_set_ne (Ne.symm hne)]

theorem Faces.mem_released (i : Input) {k' : Ticket} :
    k' ∈ (l.attend w k i next).released ↔ k' ∈ l.released ∨ k' = k ∧ call? = none := by
  rw [hf.attend_eq hp]
  cases call? <;> simp

include h

theorem Tidy.mem_taken (i : Input) {k' : Ticket} :
    k' ∈ (l.attend w k i next).taken ↔ k' ∈ l.taken ∨ k' = k := by
  have hk := (h.task_mem hf).1
  rw [hf.attend_eq hp]
  cases taking with
  | true => simp
  | false =>
    simp only [Bool.false_eq_true, if_false] at hk ⊢
    constructor
    · exact .inl
    · rintro (hm | rfl)
      · exact hm
      · exact hk

theorem Tidy.attend_hand (i : Input) {w' : WorkerId} {k' : Ticket}
    (hk : (l.attend w k i next).hands w' = some k') :
    ∃ t call, (l.attend w k i next).gateway.pool.workers[w']? = some (.busy t call) ∧
      l.task? k' = some t := by
  by_cases he : w' = w
  · subst he
    rw [hf.hands_self hp] at hk
    rw [hf.worker_self hp]
    cases call? with
    | none => cases hk
    | some call =>
      cases hk
      exact ⟨t, call, rfl, hf.task⟩
  · rw [hf.hands_other hp i he] at hk
    rw [hf.worker_other hp i he]
    exact h.hand w' k' hk

theorem Tidy.attend_busy (i : Input) {w' : WorkerId} {t' : Task} {call : Call}
    (hb : (l.attend w k i next).gateway.pool.workers[w']? = some (.busy t' call)) :
    ∃ k', (l.attend w k i next).hands w' = some k' := by
  by_cases he : w' = w
  · subst he
    rw [hf.worker_self hp] at hb
    rw [hf.hands_self hp]
    cases call? with
    | none => cases hb
    | some call => exact ⟨k, rfl⟩
  · rw [hf.worker_other hp i he] at hb
    rw [hf.hands_other hp i he]
    exact h.busy w' t' call hb

theorem Tidy.attend_alone (i : Input) {w₁ w₂ : WorkerId} {k' : Ticket}
    (h₁ : (l.attend w k i next).hands w₁ = some k') (h₂ : (l.attend w k i next).hands w₂ = some k') :
    w₁ = w₂ := by
  have hself (hk : (l.attend w k i next).hands w = some k') : k' = k := by
    rw [hf.hands_self hp] at hk
    split at hk
    · exact (Option.some.inj hk).symm
    · cases hk
  by_cases he₁ : w₁ = w
  · by_cases he₂ : w₂ = w
    · rw [he₁, he₂]
    · exfalso
      rw [he₁] at h₁
      rw [hf.hands_other hp i he₂, hself h₁] at h₂
      exact h.hands_ne hf he₂ h₂
  · by_cases he₂ : w₂ = w
    · exfalso
      rw [he₂] at h₂
      rw [hf.hands_other hp i he₁, hself h₂] at h₁
      exact h.hands_ne hf he₁ h₁
    · rw [hf.hands_other hp i he₁] at h₁
      rw [hf.hands_other hp i he₂] at h₂
      exact h.alone w₁ w₂ k' h₁ h₂

/-- Workers still hold what was taken and is not released. -/
theorem Tidy.attend_held (i : Input) (k' : Ticket) :
    (∃ w', (l.attend w k i next).hands w' = some k') ↔
      k' ∈ (l.attend w k i next).taken ∧ k' ∉ (l.attend w k i next).released := by
  rw [h.mem_taken hf hp, hf.mem_released hp]
  have hreleased := (h.task_mem hf).2
  constructor
  · rintro ⟨w', hw'⟩
    by_cases he : w' = w
    · subst he
      rw [hf.hands_self hp] at hw'
      cases call? with
      | none => cases hw'
      | some call =>
        cases hw'
        exact ⟨.inr rfl, by simpa using hreleased⟩
    · rw [hf.hands_other hp i he] at hw'
      have hne : k' ≠ k := by
        rintro rfl
        exact h.hands_ne hf he hw'
      obtain ⟨htaken, hr⟩ := (h.held k').1 ⟨w', hw'⟩
      exact ⟨.inl htaken, by simpa [hne] using hr⟩
  · rintro ⟨ht, hr⟩
    by_cases hkk : k' = k
    · subst hkk
      refine ⟨w, ?_⟩
      rw [hf.hands_self hp]
      cases call? with
      | none => simp at hr
      | some call => rfl
    · have hk : k' ∈ l.taken ∧ k' ∉ l.released := by simpa [hkk] using And.intro ht hr
      obtain ⟨w', hw'⟩ := (h.held k').2 hk
      exact ⟨w', (hf.hands_other hp i (hf.hands_ne hkk hw')).trans hw'⟩

/-- A step of a worker for a ticket keeps the books right. -/
theorem Tidy.attend (i : Input) : (l.attend w k i next).Tidy := by
  obtain ⟨htaken, hreleased⟩ := h.task_mem hf
  refine ⟨?_, ?_, ?_, fun _ _ => h.attend_hand hf hp i, fun _ _ _ => h.attend_busy hf hp i,
    fun _ _ _ => h.attend_alone hf hp i, h.attend_held hf hp i, ?_, ?_, ?_, ?_⟩
  · rw [hf.attend_eq hp]
    simpa [note, hp] using hf.ready.sound h.pool
  · rw [hf.attend_eq hp]
    change (if taking then l.taken ++ [k] else l.taken) ++
      (if taking then l.waiting.tail else l.waiting) = l.accepted
    have ha := h.accepted
    cases hf with
    | taking rest q hh hw hl hr => simpa [hr] using ha
    | running => exact ha
  · rw [hf.attend_eq hp]
    change next.1.pool.queue.map some =
      (if taking then l.waiting.tail else l.waiting).map l.task?
    rw [hp, queue_attended]
    have hq := h.queue
    cases hf with
    | taking rest q hh hw hl hr hqueue =>
      rw [hr, hqueue] at hq
      simpa [hr, hqueue] using (List.cons.inj hq).2
    | running => exact hq
  · intro k' hk'
    rw [h.mem_taken hf hp]
    rcases (hf.mem_released hp i).1 hk' with hm | ⟨rfl, -⟩
    · exact .inl (h.done k' hm)
    · exact .inr rfl
  · rw [hf.attend_eq hp]
    cases call? with
    | some call => simpa using h.once
    | none =>
      refine List.nodup_append.2 ⟨h.once, by simp, ?_⟩
      intro a ha b hb he
      rw [List.mem_singleton.1 hb] at he
      exact hreleased (he ▸ ha)
  · rw [hf.attend_eq hp]
    have hact := h.active
    have ha := @Pool.Ready.active _ w t call? taking hf.ready
    simp only [note, hp]
    cases taking <;> cases call? <;> simp at ha ⊢ <;> omega
  · intro k' hk'
    rw [h.mem_taken hf hp] at hk'
    have hkk : k' ≠ k := fun he => hk' (.inr he)
    rw [hf.attend_eq hp]
    exact (Function.update_of_ne hkk ..).trans (h.idle k' fun hm => hk' (.inl hm))

end Books
end Attend

section Moves
variable {l : Ledger} {w : WorkerId} {k : Ticket} {j : Option Ticket} {codec : Codec}
variable {config : Config}

/-- The books stay right when the gateway moves without a task. -/
theorem Tidy.rebase (h : l.Tidy) {g : Gateway} (history : List (Option Ticket × Event))
    (hs : g.pool.Sound) (hq : g.pool.queue = l.gateway.pool.queue)
    (hb : ∀ (w : WorkerId) (t : Task) (call : Call),
      g.pool.workers[w]? = some (Worker.busy t call) ↔
        l.gateway.pool.workers[w]? = some (Worker.busy t call))
    (ha : g.pool.active = l.gateway.pool.active) :
    Tidy { l with gateway := g, history } where
  pool := hs
  accepted := h.accepted
  queue := by
    dsimp only
    rw [hq]
    exact h.queue
  hand w k hk := by
    obtain ⟨t, call, hw, ht⟩ := h.hand w k hk
    exact ⟨t, call, (hb w t call).2 hw, ht⟩
  busy w t call hw := h.busy w t call ((hb w t call).1 hw)
  alone := h.alone
  held := h.held
  done := h.done
  once := h.once
  active := by
    dsimp only
    rw [ha]
    exact h.active
  idle := h.idle

theorem Tidy.note (h : l.Tidy) {next : Gateway × List Event}
    (hp : next.1.pool = l.gateway.pool) : (l.note j next).Tidy := by
  refine h.rebase _ ?_ ?_ ?_ ?_
  · rw [hp]
    exact h.pool
  · rw [hp]
  · intro w t call
    rw [hp]
  · rw [hp]

theorem Tidy.leave (h : l.Tidy) (hw : l.gateway.pool.workers[w]? = some .inLine)
    (hl : l.gateway.pool.line.head? = some w) (ev : List Event) :
    (l.note j ({ l.gateway with pool := l.gateway.pool.leave w }, ev)).Tidy := by
  obtain ⟨hlt, hget⟩ := List.getElem?_eq_some_iff.1 hw
  obtain ⟨hn, hmem, hm⟩ := (Pool.Ready.taking hw hl).line h.pool
  refine h.rebase _ ⟨hn, ?_⟩ rfl ?_ ?_
  · intro w'
    by_cases he : w' = w
    · subst he
      simpa [Pool.leave, Pool.set, hlt] using hmem
    · have := hm w' he
      simp only [if_true] at this
      simp only [Pool.leave, Pool.set]
      rw [List.getElem?_set_ne (Ne.symm he), this, h.pool.mem_line]
  · intro w' t call
    by_cases he : w' = w
    · subst he
      simp [Pool.leave, Pool.set, hlt, hget]
    · simp [Pool.leave, Pool.set, List.getElem?_set_ne (Ne.symm he)]
  · simp [Pool.active, Pool.leave, Pool.set, List.countP_set hlt, hget, Worker.isBusy]

/-- What becomes of a request: it is taken, and then nothing is sent yet, or it is rejected, and then
it gets its failure reply. -/
theorem request_cases (g : Gateway) (caller : CallerId) (r : CallerRequest) :
    (∃ server, g.registry.find? r.server = some server ∧ (g.request caller r).1 = .ok () ∧
      (g.request caller r).2.1.pool = g.pool.accept (.ofRequest server caller r) ∧
      (g.request caller r).2.1.registry = g.registry.hold server ∧
      (g.request caller r).2.1.codec = g.codec ∧
      replies (g.request caller r).2.2 = [] ∧ traffic (g.request caller r).2.2 = []) ∨
    ((∃ e, (g.request caller r).1 = .error e) ∧ (g.request caller r).2.1 = g ∧
      replies (g.request caller r).2.2 =
        (Reply.failure? r.access r.operation).toList.map (caller, ·) ∧
      traffic (g.request caller r).2.2 = []) := by
  have hreply : replies ((Reply.failure? r.access r.operation).elim [] (g.send caller)) =
      (Reply.failure? r.access r.operation).toList.map (caller, ·) := by
    cases Reply.failure? r.access r.operation <;> simp
  have htraffic : traffic ((Reply.failure? r.access r.operation).elim [] (g.send caller)) = [] := by
    cases Reply.failure? r.access r.operation <;> simp
  unfold Gateway.request Registry.find
  cases hf : g.registry.find? r.server with
  | none => exact .inr ⟨⟨_, rfl⟩, rfl, hreply, htraffic⟩
  | some server =>
    by_cases ha : g.pool.accepting
    · left
      refine ⟨server, rfl, ?_, ?_, ?_, ?_, ?_, ?_⟩ <;> simp [Gateway.submit, ha]
    · right
      refine ⟨⟨.closed, ?_⟩, ?_, ?_, ?_⟩ <;> simp [Gateway.submit, ha, hreply, htraffic]

theorem task?_append {o : Order} {l' : Ledger} (ho : l'.orders = l.orders ++ [o]) :
    l'.task? k = if k = l.orders.length then o.task? else l.task? k := by
  unfold task?
  rw [ho]
  split
  · rename_i hk
    simp [hk]
  · rename_i hk
    rcases Nat.lt_or_gt_of_ne hk with hlt | hgt
    · rw [List.getElem?_append_left hlt]
    · rw [List.getElem?_eq_none (Nat.le_of_lt hgt), List.getElem?_eq_none]
      simpa using Nat.succ_le_of_lt hgt

theorem task?_length : l.task? l.orders.length = none := by
  simp [task?]

theorem accepted_append {o : Order} {l' : Ledger} (ho : l'.orders = l.orders ++ [o]) :
    l'.accepted = l.accepted ++ (if o.task?.isSome then [l.orders.length] else []) := by
  unfold accepted
  rw [ho, List.length_append, List.length_singleton, List.range_succ, List.filter_append]
  congr 1
  · apply List.filter_congr
    intro k hk
    rw [task?_append ho, if_neg (Nat.ne_of_lt (List.mem_range.1 hk))]
  · simp only [List.filter_singleton, task?_append ho, if_true]
    cases o.task?.isSome <;> rfl

theorem Tidy.task_ne (h : l.Tidy) (hk : k ∈ l.taken ++ l.waiting) : k ≠ l.orders.length := by
  intro he
  rw [h.accepted, mem_accepted, he, task?_length] at hk
  cases hk

/-- A new request, taken or not, leaves a ledger tidy. -/
theorem Tidy.append (h : l.Tidy) {g : Gateway} {o : Order} {waiting : List Ticket}
    (history : List (Option Ticket × Event)) (hl : g.pool.line = l.gateway.pool.line)
    (hw : g.pool.workers = l.gateway.pool.workers)
    (hq : g.pool.queue = l.gateway.pool.queue ++ o.task?.toList)
    (hn : waiting = l.waiting ++ if o.task?.isSome then [l.orders.length] else []) :
    Tidy { l with gateway := g, orders := l.orders ++ [o], waiting, history } := by
  have htask (k : Ticket) :
      task? { l with gateway := g, orders := l.orders ++ [o], waiting, history } k =
        if k = l.orders.length then o.task? else l.task? k := task?_append rfl
  refine ⟨?_, ?_, ?_, ?_, ?_, h.alone, h.held, h.done, h.once, ?_, h.idle⟩
  · exact ⟨hl ▸ h.pool.nodup, by rw [hl, hw]; exact h.pool.mem_line⟩
  · rw [accepted_append rfl, ← h.accepted, List.append_assoc]
    exact congrArg _ hn
  · have hwaiting : l.waiting.map l.task? =
        l.waiting.map fun k => if k = l.orders.length then o.task? else l.task? k := by
      apply List.map_congr_left
      intro k hk
      rw [if_neg (h.task_ne (List.mem_append_right _ hk))]
    dsimp only
    rw [funext htask, hq, hn, List.map_append, List.map_append, h.queue, hwaiting]
    cases o.task? <;> simp
  · intro w k hk
    obtain ⟨t, call, hb, ht⟩ := h.hand w k hk
    refine ⟨t, call, hw ▸ hb, ?_⟩
    rw [htask, if_neg, ht]
    intro he
    rw [he, task?_length] at ht
    cases ht
  · intro w t call hb
    exact h.busy w t call (hw ▸ hb)
  · dsimp only [Pool.active]
    rw [hw]
    exact h.active

/-- What the ledger has of a request that is taken. -/
theorem order_taken {caller : CallerId} {r : CallerRequest} {server : ServerId}
    (hf : l.gateway.registry.find? r.server = some server)
    (hr : (l.gateway.request caller r).1 = .ok ()) :
    l.order caller r = { l with
      gateway := (l.gateway.request caller r).2.1
      orders := l.orders ++ [⟨caller, r, some server⟩]
      waiting := l.waiting ++ [l.orders.length]
      history := l.history ++ (l.gateway.request caller r).2.2.map (some l.orders.length, ·) } := by
  simp [order, note, hr, hf, Except.isOk, Except.toBool]

theorem order_rejected {caller : CallerId} {r : CallerRequest} {e : Error}
    (hr : (l.gateway.request caller r).1 = .error e)
    (hg : (l.gateway.request caller r).2.1 = l.gateway) :
    l.order caller r = { l with
      gateway := l.gateway
      orders := l.orders ++ [⟨caller, r, none⟩]
      waiting := l.waiting
      history := l.history ++ (l.gateway.request caller r).2.2.map (some l.orders.length, ·) } := by
  simp [order, note, hr, hg, Except.isOk, Except.toBool]

theorem Tidy.order (h : l.Tidy) (caller : CallerId) (r : CallerRequest) :
    (l.order caller r).Tidy := by
  rcases request_cases l.gateway caller r with ⟨server, hf, hr, hp, -⟩ | ⟨⟨e, hr⟩, hg, -⟩
  · rw [order_taken hf hr]
    refine h.append _ ?_ ?_ ?_ rfl <;> rw [hp] <;> rfl
  · rw [order_rejected hr hg]
    exact h.append _ rfl rfl (List.append_nil _).symm (List.append_nil _).symm

theorem tidy_start : (start codec config).Tidy := by
  have hpool : (start codec config).gateway.pool = .ofSize (max config.workers.toNat 1) := rfl
  have hline (n : Nat) (w : WorkerId) : (Pool.ofSize n).workers[w]? =
      if w < n then some .inLine else none := List.getElem?_replicate
  have hactive (n : Nat) : (Pool.ofSize n).active = 0 := by
    simp [Pool.active, Pool.ofSize, List.countP_replicate, Worker.isBusy]
  refine ⟨⟨List.nodup_range, ?_⟩, rfl, rfl, ?_, ?_, ?_, ?_, ?_, List.nodup_nil, ?_, ?_⟩
  · intro w
    rw [hpool, hline]
    generalize max config.workers.toNat 1 = n
    simp [Pool.ofSize]
  · intro w k hk
    cases hk
  · intro w t call hb
    rw [hpool, hline] at hb
    split at hb <;> cases hb
  · intro w w' k hk
    cases hk
  · simp [start]
  · simp [start]
  · rw [hpool, hactive]
    rfl
  · simp [start]

end Moves
end Ledger
end SpaceGateway
