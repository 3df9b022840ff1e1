import SpaceGateway.Proofs.Reachability
/-!
Whom a move concerns. A worker's step concerns the ticket of the worker, and is the next turn of its
course; all that belongs to other tickets stays as it is.
-/
namespace SpaceGateway

/-- What a move brings to the task of the worker whose step it is. -/
def Move.input? (l : Ledger) : Move → Option Input
  | work w => some (.step (l.gateway.findsFree w))
  | answer _ a => some (.answer a)
  | _ => none

namespace Ledger

/-- What stays of a ticket when others move. -/
structure Keeps (l l' : Ledger) (k : Ticket) : Prop where
  order : l'.orders[k]? = l.orders[k]?
  course : l'.course k = l.course k
  inputs : l'.inputs k = l.inputs k
  hands : ∀ w, l.hands w = some k →
    l'.hands w = some k ∧ l'.gateway.pool.workers[w]? = l.gateway.pool.workers[w]?
  taken : k ∈ l'.taken ↔ k ∈ l.taken
  released : k ∈ l'.released ↔ k ∈ l.released
  entered : ∀ e, (k, e) ∈ l'.entered ↔ (k, e) ∈ l.entered
  events : l'.eventsOf (some k) = l.eventsOf (some k)

section Keeps
variable {l : Ledger} {k k' : Ticket} {w : WorkerId} {t : Task} {taking : Bool} {i : Input}
variable {next : Gateway × List Event} {mv : Move}

theorem Sound.keeps_note (h : l.Sound) (hcodec : next.1.codec = l.gateway.codec)
    (hb : ∀ (w : WorkerId) (t : Task) (call : Call),
      l.gateway.pool.workers[w]? = some (.busy t call) →
        next.1.pool.workers[w]? = some (.busy t call))
    (hc : ∀ S, l.gateway.Reclient next.1 S) (k : Ticket) : l.Keeps (l.note none next) k where
  order := rfl
  course := h.owned.course_congr rfl hcodec rfl fun S _ hS => (hc S).peer hS
  inputs := rfl
  hands w hh := by
    obtain ⟨t, call, hw, -⟩ := h.tidy.hand w k hh
    exact ⟨hh, (hb w t call hw).trans hw.symm⟩
  taken := Iff.rfl
  released := Iff.rfl
  entered _ := Iff.rfl
  events := by
    rw [eventsOf_note, if_neg (by simp), List.append_nil]

theorem Sound.keeps_gateway (h : l.Sound) {g : Gateway} (hcodec : g.codec = l.gateway.codec)
    (hr : g.registry = l.gateway.registry) (hw : g.pool.workers = l.gateway.pool.workers)
    (ev : List Event) (k : Ticket) : l.Keeps (l.note none (g, ev)) k := by
  refine h.keeps_note hcodec ?_ (fun S => .same (client?_congr hr S)) k
  intro w t call hb
  exact (congrArg (·[w]?) hw).trans hb

theorem keeps_order (caller : CallerId) (r : CallerRequest) (hk : k < l.orders.length) :
    l.Keeps (l.order caller r) k := by
  have hg : (l.gateway.request caller r).2.1.codec = l.gateway.codec ∧
      (l.gateway.request caller r).2.1.pool.workers = l.gateway.pool.workers ∧
      ∀ S, (l.gateway.request caller r).2.1.client? S = l.gateway.client? S := by
    rcases request_cases l.gateway caller r with
      ⟨server, hf, -, hp, hreg, hcodec, -⟩ | ⟨-, hg, -⟩
    · refine ⟨hcodec, ?_, ?_⟩
      · rw [hp]
        rfl
      · intro S
        exact client?_hold hreg S
    · rw [hg]
      exact ⟨rfl, rfl, fun _ => rfl⟩
  obtain ⟨hcodec, hw, hc⟩ := hg
  refine ⟨?_, ?_, rfl, ?_, Iff.rfl, Iff.rfl, fun _ => Iff.rfl, ?_⟩
  · exact List.getElem?_append_left hk
  · exact course_ordered (Nat.ne_of_lt hk) hcodec hc
  · intro w hh
    exact ⟨hh, congrArg (·[w]?) hw⟩
  · have he : (l.order caller r).eventsOf (some k) = l.eventsOf (some k) ++
        if some l.orders.length = some k then (l.gateway.request caller r).2.2 else [] :=
      eventsOf_note
    rw [he, if_neg (fun h => Nat.ne_of_gt hk (Option.some.inj h)), List.append_nil]

/-- A step for another ticket. -/
theorem Sound.keeps_attend (h : l.Sound) (hf : l.Faces w k t taking) {c c' : Client}
    (hc : l.gateway.client? t.server = some c) {call? : Option Call} {n : Turn}
    (ha : l.gateway.Attended w t taking c' call? n next) (hp : c'.peer = c.peer)
    (hne : k' ≠ k) : l.Keeps (l.attend w k i next) k' := by
  have hcourse := @Sound.course_attend l w k t taking i c c' call? n next h hf hc ha hp k'
  rw [if_neg hne] at hcourse
  refine ⟨rfl, hcourse, ?_, ?_, ?_, ?_, ?_, ?_⟩
  · exact Function.update_of_ne hne ..
  · intro w' hh
    have hw := hf.hands_ne hne hh
    exact ⟨(hf.hands_other ha.pool i hw).trans hh, hf.worker_other ha.pool i hw⟩
  · rw [h.tidy.mem_taken hf ha.pool]
    simp [hne]
  · rw [hf.mem_released ha.pool]
    simp [hne]
  · intro e
    change (k', e) ∈ l.entered ++ _ ↔ _
    simp [Ne.symm hne]
  · rw [eventsOf_attend_other (fun he => hne (Option.some.inj he).symm)]

end Keeps

section Moves
variable {l : Ledger} {k : Ticket} {t : Task} {mv : Move}

/-- A move that is a step for a ticket. -/
def StepsFor (l : Ledger) (mv : Move) (k : Ticket) (t : Task) : Prop :=
  ∃ w i taking c own next, mv.worker? = some w ∧ mv.input? l = some i ∧ l.Faces w k t taking ∧
    l.gateway.client? t.server = some c ∧ l.Owns k t c own ∧ l.move mv = l.attend w k i next ∧
    l.gateway.Serves w t taking c own ((l.course k).stage.next l.gateway.codec c.peer t i) next

/-- A worker that has a ticket goes on with the call of its task. -/
theorem Sound.proceeds_for (h : l.Sound) {w : WorkerId} (hk : l.ticket? w = some k)
    (hmv : mv.worker? = some w) (ha : l.Allows mv) :
    ∃ t i taking c own s next, mv.input? l = some i ∧ l.Faces w k t taking ∧
      l.gateway.client? t.server = some c ∧ l.Owns k t c own ∧ l.move mv = l.attend w k i next ∧
      l.gateway.Proceeds w t taking c own ((l.course k).stage.next l.gateway.codec c.peer t i) s
        next := by
  obtain ⟨t, taking, hf⟩ := h.tidy.faces hk
  obtain ⟨c, own, hc, ho, ⟨s, hstep⟩, hanswer⟩ := h.proceeds hf
  cases mv with
  | work w' =>
    cases hmv
    refine ⟨t, _, taking, c, own, s, _, rfl, hf, hc, ho, ?_, hstep⟩
    change l.worked w _ _ = _
    simp only [worked, hk]
  | answer w' a =>
    cases hmv
    cases hf with
    | taking rest q hh hw hl =>
      obtain ⟨⟨d, hd⟩, -⟩ := ha
      exact (workerNeed_inLine hw hd).elim
    | running call hh hw ht =>
      obtain ⟨s, hs⟩ := hanswer rfl a
      refine ⟨t, _, false, c, own, s, _, rfl, .running call hh hw ht, hc, ho, ?_, hs⟩
      change l.worked w _ _ = _
      simp only [worked, hk]
  | _ => cases hmv

/-- A worker that has a ticket makes a step for it. -/
theorem Sound.steps_for (h : l.Sound) {w : WorkerId} (hk : l.ticket? w = some k)
    (hmv : mv.worker? = some w) (ha : l.Allows mv) : ∃ t, l.StepsFor mv k t := by
  obtain ⟨t, i, taking, c, own, s, next, hi, hf, hc, ho, he, hp⟩ := h.proceeds_for hk hmv ha
  exact ⟨t, w, i, taking, c, own, next, hmv, hi, hf, hc, ho, he, hp.serves⟩

/-- A worker that has no ticket changes its pool at most. -/
theorem Sound.idles (h : l.Sound) {w : WorkerId} (hk : l.ticket? w = none)
    (hmv : mv.worker? = some w) :
    ∃ p ev, l.move mv = l.note none ({ l.gateway with pool := p }, ev) ∧
      (∀ (w : WorkerId) (t : Task) (call : Call),
        l.gateway.pool.workers[w]? = some (.busy t call) →
          p.workers[w]? = some (.busy t call)) ∧ (ev = [] ∨ ev = [.log .workerStopped]) := by
  cases mv with
  | work w' =>
    cases hmv
    have hmove : l.move (.work w) = l.note none (l.gateway.workerStep w) := by
      change l.worked w _ _ = _
      simp only [worked, hk]
    rcases workerStep_idle h.tidy hk with he | ⟨hw, hl, he⟩
    · exact ⟨l.gateway.pool, [], by rw [hmove, he], fun _ _ _ hb => hb, .inl rfl⟩
    · refine ⟨l.gateway.pool.leave w, [.log .workerStopped], by rw [hmove, he], ?_, .inr rfl⟩
      intro w' t call hb
      have hne : w ≠ w' := by
        rintro rfl
        rw [hw] at hb
        cases hb
      simpa [Pool.leave, Pool.set, List.getElem?_set_ne hne] using hb
  | answer w' a =>
    cases hmv
    refine ⟨l.gateway.pool, [], ?_, fun _ _ _ hb => hb, .inl rfl⟩
    change l.worked w _ _ = _
    simp only [worked, hk]
    rw [workerResume_idle h.tidy hk]
  | _ => cases hmv

/-- What a worker that has no ticket does changes its pool at most. -/
theorem Sound.worked_cases (h : l.Sound) {w : WorkerId} (hmv : mv.worker? = some w)
    (ha : l.Allows mv) : (∃ k t, l.StepsFor mv k t) ∨
      ∃ p ev, l.move mv = l.note none ({ l.gateway with pool := p }, ev) ∧
        ∀ (w : WorkerId) (t : Task) (call : Call),
          l.gateway.pool.workers[w]? = some (.busy t call) → p.workers[w]? = some (.busy t call) := by
  cases hk : l.ticket? w with
  | some k => exact .inl ⟨k, h.steps_for hk hmv ha⟩
  | none =>
    obtain ⟨p, ev, he, hb, -⟩ := h.idles hk hmv
    exact .inr ⟨p, ev, he, hb⟩

theorem StepsFor.unique (h : l.Sound) {k' : Ticket} {t' : Task} (hs : l.StepsFor mv k t)
    (ht : l.task? k' = some t') : l.Keeps (l.move mv) k' ∨ k' = k ∧ t' = t := by
  obtain ⟨w, i, taking, c, own, next, -, -, hf, hc, -, he, c', call?, ha, hadv⟩ := hs
  by_cases hk : k' = k
  · subst hk
    exact .inr ⟨rfl, Option.some.inj (ht.symm.trans hf.task)⟩
  · rw [he]
    exact .inl (h.keeps_attend hf hc ha hadv.peer hk)

/-- A move is a step for a ticket, or leaves all that belongs to it. -/
theorem Sound.move_cases (h : l.Sound) (ha : l.Allows mv) (ht : l.task? k = some t) :
    l.StepsFor mv k t ∨ l.Keeps (l.move mv) k := by
  have hworked {w : WorkerId} (hmv : mv.worker? = some w) :
      l.StepsFor mv k t ∨ l.Keeps (l.move mv) k := by
    rcases h.worked_cases hmv ha with ⟨k', t', hs⟩ | ⟨p, ev, he, hb⟩
    · rcases hs.unique h ht with hk | ⟨rfl, rfl⟩
      · exact .inr hk
      · exact .inl hs
    · rw [he]
      exact .inr (h.keeps_note rfl hb (fun S => .same rfl) k)
  cases mv with
  | work w => exact hworked rfl
  | answer w a => exact hworked rfl
  | discover news =>
    refine .inr (h.keeps_note rfl ?_ (discover_reclient h.housed news) k)
    exact fun _ _ _ hb => hb
  | request caller r => exact .inr (keeps_order caller r (task_lt ht))
  | depart caller =>
    have hs := @Sound.keeps_gateway l h (l.gateway.depart caller) rfl rfl rfl [] k
    rw [note_nil] at hs
    exact .inr hs
  | shutDown =>
    have hs := @Sound.keeps_gateway l h l.gateway.shutDown rfl rfl rfl [] k
    rw [note_nil] at hs
    exact .inr hs
  | returnFrom i =>
    right
    change l.Keeps (l.note none (l.gateway.returnFrom i)) k
    unfold Gateway.returnFrom
    split
    · refine h.keeps_gateway ?_ ?_ ?_ _ k <;> rfl
    · refine h.keeps_gateway ?_ ?_ ?_ _ k <;> rfl

/-- A ticket keeps its task. -/
theorem Sound.task?_stays (h : l.Sound) (ha : l.Allows mv) (ht : l.task? k = some t) :
    (l.move mv).task? k = some t := by
  have ho : (l.move mv).orders[k]? = l.orders[k]? := by
    rcases h.move_cases ha ht with hs | hk
    · obtain ⟨w, i, taking, c, own, next, -, -, -, -, -, he, -⟩ := hs
      rw [he]
      rfl
    · exact hk.order
  rw [task?, ho]
  exact ht

end Moves
end Ledger
end SpaceGateway
