import SpaceGateway.Proofs.Feed
import SpaceGateway.Proofs.Leaks
import SpaceGateway.Proofs.Places
/-!
Runs in which the connection of one task obliges, and anything else may happen. The task is then on its
way at any time; it can go on, and can come to its end by its own steps alone.
-/
namespace SpaceGateway

section Needs
variable {c : Client} {w : WorkerId} {t : Task} {call : Call} {stage : Stage} {own : Option Holding}

/-- What a call waits for is what the stage of its task asks for. -/
theorem Shows.need (hs : Shows c w t call stage own) (hf : stage.Fits t) :
    call.need c w = (stage.demand? c.peer).elim .nothing .answer := by
  cases hs with
  | alone h =>
    subst h
    cases call with
    | exchanging | registering => rfl
    | _ => exact hf.elim
  | sharing h f hg hsub hcall hx =>
    subst hcall
    cases stage with
    | queued | calling | ended => cases hsub
    | polling sub post s =>
      cases post with
      | looking | approaching => cases hg; rfl
      | waiting =>
        cases hg
        simp [Call.need, Client.isTurn_eq hx, Stage.demand?]
      | acting a =>
        cases hg
        simp [Call.need, Client.session?_eq hx, Stage.demand?]
    | closing sub n post s =>
      cases post with
      | looking | approaching => cases hg; rfl
      | waiting =>
        cases hg
        simp [Call.need, Client.isTurn_eq hx, Stage.demand?]
      | acting a => cases hg

theorem Shows.not_ended (hs : Shows c w t call stage own) : stage ≠ .ended := by
  intro ho
  subst ho
  cases hs with
  | alone h => cases h
  | sharing h f hg => cases hg

theorem Shows.registering (hs : Shows c w t call stage own) {m : Message} {sub : String} {s : Session}
    (h : stage = .calling (.registering m sub s)) : call = .registering m sub s := by
  subst h
  cases hs with
  | alone h => exact (Stage.calling.inj h).symm
  | sharing h f hg => cases hg

theorem Shows.alone_of_registering {m : Message} {sub : String} {s : Session}
    (hs : Shows c w t (.registering m sub s) stage own) :
    stage = .calling (.registering m sub s) ∧ own = none := by
  cases hs with
  | alone h => exact ⟨h, rfl⟩
  | sharing h f hg hsub hcall =>
    exfalso
    cases stage with
    | queued | calling | ended => cases hsub
    | polling sub post s => cases post <;> cases hg <;> cases hcall
    | closing sub n post s =>
      cases post with
      | acting a => cases hg
      | _ => cases hg; cases hcall

end Needs

/-- Whether a worker that is about to enter a subscription finds it taken. -/
def Gateway.findsTaken (g : Gateway) (w : WorkerId) : Bool :=
  match g.pool.workers[w]? with
  | some (.busy t (.registering _ subscription _)) =>
    (g.client? t.server).any (·.has subscription)
  | _ => false

namespace Ledger

/-- Whether a move, if it is a step for the task of a ticket, is one that the task makes on a connection
that brings `stream`. All other moves are free. -/
def Obliges (k : Ticket) (stream : Bytes) (l : Ledger) : Move → Prop
  | .work w => l.hands w = some k → l.gateway.findsTaken w = false
  | .answer w a => l.hands w = some k →
    ∀ d, l.gateway.workerNeed w = .answer d → d.Obliged stream (received (l.inputs k)) a
  | _ => True

instance decidableObliges (k : Ticket) (stream : Bytes) (l : Ledger) :
    (mv : Move) → Decidable (l.Obliges k stream mv)
  | .work w => inferInstanceAs (Decidable (l.hands w = some k → l.gateway.findsTaken w = false))
  | .answer w a =>
    have : Decidable (∀ d, l.gateway.workerNeed w = .answer d →
        d.Obliged stream (received (l.inputs k)) a) :=
      match l.gateway.workerNeed w with
      | .answer d => decidable_of_iff (d.Obliged stream (received (l.inputs k)) a)
          ⟨fun h _ he => Need.answer.inj he ▸ h, fun h => h d rfl⟩
      | .nothing | .others => isTrue nofun
    inferInstanceAs (Decidable (l.hands w = some k → ∀ d, l.gateway.workerNeed w = .answer d →
      d.Obliged stream (received (l.inputs k)) a))
  | .discover _ | .request .. | .depart _ | .shutDown | .returnFrom _ => isTrue trivial

section Runs
variable {l : Ledger} {k : Ticket} {t : Task} {mv : Move} {x : Feed} {codec : Codec} {config : Config}
variable {f : Bytes → ParseOutcome} {c : Client} {w : WorkerId} {stream : Bytes}

/-- What a worker that runs a task waits for. -/
theorem Sound.workerNeed (h : l.Sound) (hh : l.hands w = some k) (ht : l.task? k = some t)
    (hc : l.gateway.client? t.server = some c) : ∃ call own,
      l.gateway.pool.workers[w]? = some (.busy t call) ∧ Shows c w t call (l.course k).stage own ∧
      l.gateway.workerNeed w = ((l.course k).stage.demand? c.peer).elim .nothing .answer := by
  obtain ⟨t', call, hw, ht'⟩ := h.tidy.hand w k hh
  rw [ht] at ht'
  cases ht'
  obtain ⟨own, hs, -⟩ := h.owned.running w k t call c hh ht hw hc
  refine ⟨call, own, hw, hs, ?_⟩
  have hn : l.gateway.workerNeed w = call.need c w := by
    simp [Gateway.workerNeed, hw, hc]
  rw [hn, hs.need (h.turn ht).fits]

/-- What a stage asks for is what its worker waits for. -/
theorem elim_answer_iff {d? : Option Demand} {d : Demand} :
    d?.elim Need.nothing Need.answer = .answer d ↔ d? = some d := by
  cases d? <;> simp

theorem elim_nothing_iff {d? : Option Demand} :
    d?.elim Need.nothing Need.answer = .nothing ↔ d? = none := by
  cases d? <;> simp

theorem Sound.obliged_work {taking : Bool} (h : l.Sound) (ha : l.Allows (.work w))
    (ho : l.Obliges k stream (.work w)) (hf : l.Faces w k t taking)
    (hc : l.gateway.client? t.server = some c) :
    (l.course k).stage.Obliged c.peer stream (received (l.inputs k))
      (.step (l.gateway.findsFree w)) := by
  cases hf with
  | taking rest q hh hw hl hr hq ht =>
    have hstage : (l.course k).stage = .queued := by
      rw [course_idle (h.tidy.idle k (h.tidy.not_taken hr))]
    rw [hstage]
    exact obliged_queued _
  | running call hh hw ht =>
    obtain ⟨call', own', hw', hs, hn⟩ := h.workerNeed hh ht hc
    refine ⟨hs.not_ended, elim_nothing_iff.1 (hn.symm.trans ha), ?_⟩
    intro m sub s hstage
    obtain rfl := hs.registering hstage
    have htaken := ho hh
    simp only [Gateway.findsTaken, hw', hc, Option.any_some] at htaken
    rw [findsFree_registering hw' hc, htaken]
    rfl

theorem Sound.obliged_answer {taking : Bool} {a : Answer} (h : l.Sound)
    (ha : l.Allows (.answer w a)) (ho : l.Obliges k stream (.answer w a))
    (hf : l.Faces w k t taking) (hc : l.gateway.client? t.server = some c) :
    (l.course k).stage.Obliged c.peer stream (received (l.inputs k)) (.answer a) := by
  obtain ⟨⟨d, hd⟩, -⟩ := ha
  cases hf with
  | taking rest q hh hw hl => exact (workerNeed_inLine hw hd).elim
  | running call hh hw ht =>
    obtain ⟨call', own', -, -, hn⟩ := h.workerNeed hh ht hc
    exact ⟨d, elim_answer_iff.1 (hn.symm.trans hd), ho hh d hd⟩

/-- A step for a ticket, on a connection that obliges, is one that its course may take. -/
theorem Sound.obliged (h : l.Sound) (ha : l.Allows mv) (ho : l.Obliges k stream mv)
    (hs : l.StepsFor mv k t) : ∃ w i c next, l.gateway.client? t.server = some c ∧
      l.move mv = l.attend w k i next ∧
      (l.course k).stage.Obliged c.peer stream (received (l.inputs k)) i := by
  obtain ⟨w, i, taking, c, own, next, hmv, hi, hf, hc, -, he, -⟩ := hs
  refine ⟨w, i, c, next, hc, he, ?_⟩
  cases mv with
  | work w' =>
    cases hmv
    cases hi
    exact h.obliged_work ha ho hf hc
  | answer w' a =>
    cases hmv
    cases hi
    exact h.obliged_answer ha ho hf hc
  | _ => cases hmv

/-- The task of a new request has not moved yet. -/
theorem Sound.move_unmade (h : l.Sound) (ha : l.Allows mv) (hn : l.task? k = none) :
    (l.move mv).inputs k = [] := by
  have hidle : l.inputs k = [] := by
    apply h.tidy.idle k
    intro hk
    have hm : k ∈ l.accepted := by
      rw [← h.tidy.accepted]
      exact List.mem_append_left _ hk
    rw [mem_accepted, hn] at hm
    cases hm
  have hwork {w : WorkerId} (hmv : mv.worker? = some w) : (l.move mv).inputs k = [] := by
    rcases h.worked_cases hmv ha with ⟨k', t, hs⟩ | ⟨p, ev, he, -⟩
    · obtain ⟨w', i, taking, c, own, next, -, -, hf, -, -, he, -⟩ := hs
      have hne : k ≠ k' := by
        rintro rfl
        rw [hf.task] at hn
        cases hn
      rw [he]
      exact (Function.update_of_ne hne ..).trans hidle
    · rw [he]
      exact hidle
  cases mv with
  | work w => exact hwork rfl
  | answer w a => exact hwork rfl
  | _ => exact hidle

/-- A step of the run keeps the task on its way. -/
theorem Sound.follows_move (h : l.Sound) (ha : l.Allows mv) (ho : l.Obliges k x.stream mv)
    (ht : l.task? k = some t) (hc : l.gateway.client? t.server = some c)
    (hx : x.Suits l.gateway.codec f c.peer t)
    (hf : x.Follows l.gateway.codec f c.peer t (l.inputs k)) :
    x.Follows l.gateway.codec f c.peer t ((l.move mv).inputs k) := by
  rcases h.move_cases ha ht with hs | hk
  · obtain ⟨w, i, c', next, hc', he, hi⟩ := h.obliged ha ho hs
    rw [hc] at hc'
    cases hc'
    rw [course_eq ht hc] at hi
    have hinputs : (l.move mv).inputs k = l.inputs k ++ [i] := by
      rw [he]
      exact Function.update_self ..
    rw [hinputs]
    exact hf.snoc hx hi
  · rw [hk.inputs]
    exact hf

theorem task?_move (h : l.Sound) (ha : l.Allows mv) {t' : Task} (ht : l.task? k = some t')
    (ht' : (l.move mv).task? k = some t) : t' = t :=
  Option.some.inj ((h.task?_stays ha ht).symm.trans ht')

/-- As long as the connection obliges, the task is on its way. -/
theorem follows_of_run (run : Run (Obliges k x.stream) (start codec config) l)
    (ht : l.task? k = some t) (hc : l.gateway.client? t.server = some c)
    (hx : x.Suits codec f c.peer t) : x.Follows codec f c.peer t (l.inputs k) := by
  induction run generalizing c with
  | refl => cases ht
  | @snoc l mv run allowed obliges ih =>
    have hS := sound_start.run run
    cases ht' : l.task? k with
    | none =>
      rw [hS.move_unmade allowed ht']
      exact Feed.follows_nil
    | some t' =>
      obtain rfl := task?_move hS allowed ht' ht
      obtain ⟨c', hc'⟩ := hS.owned.known k t' ht'
      have hpeer := (hS.grows allowed).2.peer hc' hc
      have hcodec := (placed_of_run run).codec
      rw [hpeer] at hx ⊢
      have hf := ih ht' hc' hx
      rw [← hcodec] at hx hf ⊢
      exact hS.follows_move allowed obliges ht' hc' hx hf

theorem exists_above (ids : List ConnId) : ∃ c, ∀ x ∈ ids, x < c := by
  induction ids with
  | nil => exact ⟨0, nofun⟩
  | cons x ids ih =>
    obtain ⟨c, hc⟩ := ih
    refine ⟨max (x + 1) c, ?_⟩
    intro y hy
    rcases List.mem_cons.1 hy with rfl | hy
    · exact Nat.le_max_left ..
    · exact Nat.lt_of_lt_of_le (hc y hy) (Nat.le_max_right ..)

theorem Sound.worker_of_running (h : l.Sound) (hr : k ∈ l.running) : ∃ w, l.hands w = some k := by
  obtain ⟨htaken, hreleased⟩ := List.mem_filter.1 hr
  exact (h.tidy.held k).2 ⟨htaken, by simpa using hreleased⟩

/-- A task that is on its way can go on, unless it finds its subscription taken. -/
theorem Sound.goes_on (h : l.Sound) (hh : l.hands w = some k) (ht : l.task? k = some t)
    (hc : l.gateway.client? t.server = some c) (hpos : 0 < c.peer.receiveBuffer)
    (hf : x.Follows l.gateway.codec f c.peer t (l.inputs k))
    (hfree : l.gateway.findsTaken w = false) :
    ∃ mv, mv.worker? = some w ∧ l.Allows mv ∧ l.Obliges k x.stream mv := by
  obtain ⟨call, own, hw, hs, hn⟩ := h.workerNeed hh ht hc
  cases hd : (l.course k).stage.demand? c.peer with
  | none =>
    rw [hd] at hn
    exact ⟨.work w, rfl, hn, fun _ => hfree⟩
  | some d =>
    rw [hd] at hn
    obtain ⟨fresh, hfresh⟩ := exists_above l.opened
    rw [course_eq ht hc] at hd
    obtain ⟨a, ha, hconn⟩ := hf.answer hpos hd fresh
    refine ⟨.answer w a, rfl, ⟨⟨d, hn⟩, ?_⟩, ?_⟩
    · intro id hid hm
      rw [hconn id hid] at hm
      exact Nat.lt_irrefl _ (hfresh fresh hm)
    · intro _ d' hd'
      rw [hn] at hd'
      cases hd'
      exact ha

end Runs

section Streams
variable {l : Ledger} {k : Ticket} {t : Task} {o : Order} {x : Feed} {codec : Codec} {config : Config}
variable {f : Bytes → ParseOutcome} {c : Client} {S : ServerId}

/-- A task that is over on such a connection has sent all its replies, and given up the connection. -/
theorem Sound.streamed (h : l.Sound) (hr : k ∈ l.released) (ht : l.task? k = some t)
    (hc : l.gateway.client? t.server = some c)
    (hf : x.Follows l.gateway.codec f c.peer t (l.inputs k)) :
    l.repliesOf k = (x.replies c.peer t).map (t.caller, ·) ∧
      ∃ id, l.openedBy k = [id] ∧ l.closed.count id = 1 := by
  have hcourse := course_eq ht hc
  have ho := h.owned.ended k hr
  obtain ⟨hconn, hopened, -⟩ := h.connected ht
  have hle := hconn.openings_le
  rw [← hopened] at hle
  rw [hcourse] at ho hopened
  constructor
  · rw [h.accounts.replied k t ht, hcourse, hf.replies_over ho]
  · cases hl : l.openedBy k with
    | nil => exact (hf.opened ho (hopened.symm.trans hl)).elim
    | cons id rest =>
      rw [hl, List.length_cons] at hle
      have hrest : rest = [] := List.eq_nil_of_length_eq_zero (by omega)
      subst hrest
      exact ⟨id, rfl, h.closed_once hr (by simp [hl])⟩

end Streams

/-- Whether no other task has entered a subscription. -/
def Unclaimed (l : Ledger) (k : Ticket) (S : ServerId) (subscription : String) : Prop :=
  ∀ id, (S, subscription, id) ∈ l.gateway.listings → (k, S, subscription, id) ∈ l.entered

section Completion
variable {l l' : Ledger} {k : Ticket} {t : Task} {mv : Move} {x : Feed} {codec : Codec}
variable {config : Config} {f : Bytes → ParseOutcome} {c : Client} {w : WorkerId} {peer : Peer}
variable {S : ServerId} {sub : String}

theorem Sound.ticket_of_hand (h : l.Sound) (hh : l.hands w = some k) : l.ticket? w = some k := by
  obtain ⟨t, call, hw, -⟩ := h.tidy.hand w k hh
  simp [ticket?, hw, hh]

theorem Unclaimed.attend (hu : l.Unclaimed k S sub) (i : Input) (next : Gateway × List Event) :
    (l.attend w k i next).Unclaimed k S sub := by
  intro id hm
  have hm : (S, sub, id) ∈ next.1.listings := hm
  change (k, S, sub, id) ∈ l.entered ++ _
  rw [List.mem_append]
  by_cases hold : (S, sub, id) ∈ l.gateway.listings
  · exact .inl (hu id hold)
  · refine .inr (List.mem_map.2 ⟨_, List.mem_filter.2 ⟨hm, ?_⟩, rfl⟩)
    simpa using hold

/-- A task that no other one is in the way of finds its subscription free. -/
theorem Sound.finds_free (h : l.Sound) (hh : l.hands w = some k) (ht : l.task? k = some t)
    (hc : l.gateway.client? t.server = some c)
    (hf : x.Follows l.gateway.codec f c.peer t (l.inputs k))
    (hu : l.Unclaimed k t.server x.subscription) : l.gateway.findsTaken w = false := by
  obtain ⟨call, own, hw, hs, -⟩ := h.workerNeed hh ht hc
  obtain ⟨own', hs', ho⟩ := h.owned.running w k t call c hh ht hw hc
  unfold Gateway.findsTaken
  rw [hw]
  cases call with
  | registering m sub s =>
    obtain ⟨hstage, rfl⟩ := hs'.alone_of_registering
    rw [course_eq ht hc] at hstage
    obtain rfl := hf.registering hstage
    simp only [hc, Option.any_some]
    cases hhas : c.has x.subscription with
    | false => rfl
    | true =>
      exfalso
      obtain ⟨id, hid⟩ := Option.isSome_iff_exists.1 hhas
      have hm := (Client.find?_iff (h.owned.keys _ c hc)).1 hid
      exact ho _ (hu id (mem_listings.2 ⟨c, hc, hm⟩))
  | _ => rfl

/-- A task that runs comes closer to its end by a step of its own. -/
theorem Sound.goes_nearer (h : l.Sound) (hr : k ∈ l.running) (ht : l.task? k = some t)
    (hc : l.gateway.client? t.server = some c) (hpos : 0 < c.peer.receiveBuffer)
    (hf : x.Follows l.gateway.codec f c.peer t (l.inputs k))
    (hu : l.Unclaimed k t.server x.subscription) :
    ∃ mv, l.Allows mv ∧ l.Obliges k x.stream mv ∧
      ((l.move mv).inputs k).length = (l.inputs k).length + 1 ∧ (l.move mv).task? k = some t ∧
      (k ∈ (l.move mv).released ∨ k ∈ (l.move mv).running) ∧
      (l.move mv).Unclaimed k t.server x.subscription := by
  obtain ⟨w, hh⟩ := h.worker_of_running hr
  have hfree := h.finds_free hh ht hc hf hu
  obtain ⟨mv, hmv, ha, ho⟩ := h.goes_on hh ht hc hpos hf hfree
  obtain ⟨t', w', i, taking, c', own, next, -, -, hfaces, -, -, he, c₁, call?, hatt, -⟩ :=
    h.steps_for (h.ticket_of_hand hh) hmv ha
  refine ⟨mv, ha, ho, ?_, ?_, ?_, ?_⟩
  · rw [he]
    change (Function.update l.inputs k (l.inputs k ++ [i]) k).length = _
    simp
  · rw [he]
    exact ht
  · rw [he]
    by_cases hrel : k ∈ (l.attend w' k i next).released
    · exact .inl hrel
    · refine .inr (List.mem_filter.2 ⟨?_, by simpa using hrel⟩)
      exact (h.tidy.mem_taken hfaces hatt.pool i).2 (.inr rfl)
  · rw [he]
    exact hu.attend i next

/-- A task that runs can come to its end by its own steps, if no other task has entered its
subscription. -/
theorem completes (n : Nat) (run : Run (Obliges k x.stream) (start codec config) l)
    (hn : x.limit ≤ (l.inputs k).length + n) (hr : k ∈ l.running) (ht : l.task? k = some t)
    (hc : l.gateway.client? t.server = some c) (hpos : 0 < c.peer.receiveBuffer)
    (hx : x.Suits codec f c.peer t) (hu : l.Unclaimed k t.server x.subscription) :
    ∃ l', Run (Obliges k x.stream) l l' ∧ k ∈ l'.released := by
  induction n generalizing l c with
  | zero =>
    have h := sound_start.run run
    have hf := follows_of_run run ht hc hx
    rw [← (placed_of_run run).codec] at hf
    obtain ⟨mv, ha, ho, hlen, ht', -, -⟩ := h.goes_nearer hr ht hc hpos hf hu
    obtain ⟨c', hc'⟩ := (h.move ha).owned.known k t ht'
    rw [← (h.grows ha).2.peer hc hc'] at hx
    have hle := (follows_of_run (.snoc run ha ho) ht' hc' hx).length_le
    omega
  | succ n ih =>
    have h := sound_start.run run
    have hf := follows_of_run run ht hc hx
    rw [← (placed_of_run run).codec] at hf
    obtain ⟨mv, ha, ho, hlen, ht', hend, hu'⟩ := h.goes_nearer hr ht hc hpos hf hu
    have hstep : Run (Obliges k x.stream) l (l.move mv) := .snoc .refl ha ho
    rcases hend with hrel | hrun
    · exact ⟨_, hstep, hrel⟩
    · obtain ⟨c', hc'⟩ := (h.move ha).owned.known k t ht'
      have hpeer := (h.grows ha).2.peer hc hc'
      rw [← hpeer] at hx hpos
      obtain ⟨l', hrest, hrel⟩ := ih (.snoc run ha ho) (by omega) hrun ht' hc' hpos hx hu'
      exact ⟨l', hstep.trans hrest, hrel⟩

end Completion
end Ledger
end SpaceGateway
