import Mathlib.Data.List.Pairwise
import Mathlib.Data.List.Perm.Subperm
import SpaceGateway.Codec.Framed
import SpaceGateway.Proofs.Keeping
/-!
Nothing leaks. The connections that are open belong to the running tasks, one each at most, and so do
the entries of the tables of subscriptions.
-/
namespace SpaceGateway

def Event.opening? (e : Event) : Option ConnId := e.traffic?.bind Traffic.opening?

def Event.closing? (e : Event) : Option ConnId := e.traffic?.bind Traffic.closing?

section Parts
variable {ev : List Event} {l : Ledger} {c : ConnId} {f : Event → Option ConnId}

theorem openings_traffic : openings (traffic ev) = ev.filterMap Event.opening? := by
  simp only [openings, traffic, List.filterMap_filterMap]
  rfl

theorem closings_traffic : closings (traffic ev) = ev.filterMap Event.closing? := by
  simp only [closings, traffic, List.filterMap_filterMap]
  rfl

/-- What occurs in a history occurs in the part of someone. -/
theorem mem_history (hc : c ∈ (l.history.map (·.2)).filterMap f) :
    ∃ j, c ∈ (l.eventsOf j).filterMap f := by
  obtain ⟨e, he, hf⟩ := List.mem_filterMap.1 hc
  obtain ⟨⟨j, e'⟩, hm, rfl⟩ := List.mem_map.1 he
  refine ⟨j, List.mem_filterMap.2 ⟨e', ?_, hf⟩⟩
  exact List.mem_filterMap.2 ⟨_, hm, if_pos rfl⟩

theorem mem_part {j : Option Ticket} (hc : c ∈ (l.eventsOf j).filterMap f) :
    ∃ e, (j, e) ∈ l.history ∧ f e = some c := by
  obtain ⟨e, he, hf⟩ := List.mem_filterMap.1 hc
  obtain ⟨⟨i, e'⟩, hm, hi⟩ := List.mem_filterMap.1 he
  dsimp only at hi
  split at hi
  · rename_i hij
    cases hi
    subst hij
    exact ⟨_, hm, hf⟩
  · cases hi

theorem mem_history_of_part {j : Option Ticket} (hc : c ∈ (l.eventsOf j).filterMap f) :
    c ∈ (l.history.map (·.2)).filterMap f := by
  obtain ⟨e, he, hf⟩ := mem_part hc
  exact List.mem_filterMap.2 ⟨e, List.mem_map.2 ⟨_, he, rfl⟩, hf⟩

/-- What occurs once in a history occurs in the part of one only. -/
theorem part_unique (hn : ((l.history.map (·.2)).filterMap f).Nodup) {i j : Option Ticket}
    (hi : c ∈ (l.eventsOf i).filterMap f) (hj : c ∈ (l.eventsOf j).filterMap f) : i = j := by
  obtain ⟨e, he, hfe⟩ := mem_part hi
  obtain ⟨e', he', hfe'⟩ := mem_part hj
  by_contra hne
  rw [List.filterMap_map] at hn
  have hp : l.history.Pairwise fun x y =>
      ∀ a, f x.2 = some a → ∀ b, f y.2 = some b → a ≠ b := List.pairwise_filterMap.1 hn
  have : Std.Symm fun x y : Option Ticket × Event =>
      ∀ a, f x.2 = some a → ∀ b, f y.2 = some b → a ≠ b :=
    ⟨fun x y h a ha b hb hab => h b hb a ha hab.symm⟩
  have hs := List.Pairwise.forall hp he he' (fun hxy => hne (Prod.mk.inj hxy).1)
  exact hs c hfe c hfe' rfl

/-- What occurs in the part of one only occurs there as often as in the whole. -/
theorem count_part {j : Option Ticket} (h : ∀ i, c ∈ (l.eventsOf i).filterMap f → i = j) :
    ((l.history.map (·.2)).filterMap f).count c = ((l.eventsOf j).filterMap f).count c := by
  have hx : ∀ x ∈ l.history, f x.2 = some c → x.1 = j := by
    rintro ⟨i, e⟩ hx hf
    refine h i (List.mem_filterMap.2 ⟨e, ?_, hf⟩)
    exact List.mem_filterMap.2 ⟨_, hx, if_pos rfl⟩
  have hl (xs : List (Option Ticket × Event)) (hxs : ∀ x ∈ xs, f x.2 = some c → x.1 = j) :
      ((xs.map (·.2)).filterMap f).count c =
        ((xs.filterMap fun x => if x.1 = j then some x.2 else none).filterMap f).count c := by
    induction xs with
    | nil => rfl
    | cons x xs ih =>
      obtain ⟨i, e⟩ := x
      have ih := ih fun y hy => hxs y (List.mem_cons_of_mem _ hy)
      rw [List.map_cons, List.filterMap_cons, List.filterMap_cons]
      by_cases hij : i = j
      · simp only [if_pos hij, List.filterMap_cons]
        cases f e with
        | none => exact ih
        | some c' => rw [List.count_cons, List.count_cons, ih]
      · simp only [if_neg hij]
        cases hfe : f e with
        | none => exact ih
        | some c' =>
          have hne : c' ≠ c := by
            rintro rfl
            exact hij (hxs _ List.mem_cons_self hfe)
          rw [List.count_cons_of_ne hne, ih]
  exact hl _ hx

end Parts

namespace Ledger
variable {l : Ledger} {c : ConnId} {k k' : Ticket} {t : Task}

/-- The connections that are open. -/
def live (l : Ledger) : List ConnId := l.opened.filter (· ∉ l.closed)

section Connections

/-- Who has something on the network has a task. -/
theorem Sound.has_task (h : l.Sound) {j : Option Ticket} {x : Traffic}
    (hx : x ∈ traffic (l.eventsOf j)) : ∃ k t, j = some k ∧ l.task? k = some t := by
  cases j with
  | none =>
    rw [h.accounts.stray.2] at hx
    cases hx
  | some k =>
    rcases Nat.lt_or_ge k l.orders.length with hk | hk
    · have ho : l.orders[k]? = some l.orders[k] := List.getElem?_eq_getElem hk
      cases hs : l.orders[k].server with
      | none =>
        have := (h.accounts.rejected k _ ho hs).2
        rw [trafficOf] at this
        rw [this] at hx
        cases hx
      | some server => exact ⟨k, _, rfl, by simp [task?, ho, Order.task?, hs]; rfl⟩
    · rw [h.accounts.unmade k hk] at hx
      cases hx

theorem Sound.opener (h : l.Sound) (hc : c ∈ l.opened) :
    ∃ k t, l.task? k = some t ∧ c ∈ l.openedBy k := by
  rw [opened, openings_traffic] at hc
  obtain ⟨j, hj⟩ := mem_history hc
  rw [← openings_traffic] at hj
  obtain ⟨x, hx, -⟩ := List.mem_filterMap.1 hj
  obtain ⟨k, t, rfl, ht⟩ := h.has_task hx
  exact ⟨k, t, ht, hj⟩

theorem Sound.opener_unique (h : l.Sound) (hk : c ∈ l.openedBy k) (hk' : c ∈ l.openedBy k') :
    k = k' := by
  have hn := h.accounts.distinct
  rw [opened, openings_traffic] at hn
  rw [openedBy, trafficOf, openings_traffic] at hk hk'
  exact Option.some.inj (part_unique hn hk hk')

theorem opened_of_openedBy (hk : c ∈ l.openedBy k) : c ∈ l.opened := by
  rw [openedBy, trafficOf, openings_traffic] at hk
  rw [opened, openings_traffic]
  exact mem_history_of_part hk

theorem Sound.connected (h : l.Sound) (ht : l.task? k = some t) :
    (l.course k).Connected ∧ l.openedBy k = openings (l.course k).traffic ∧
      closings (l.trafficOf k) = closings (l.course k).traffic := by
  refine ⟨(h.turn ht).connected, ?_, ?_⟩
  · rw [openedBy, h.accounts.seen k t ht]
  · rw [h.accounts.seen k t ht]

/-- Who gives up a connection has opened it. -/
theorem Sound.closer (h : l.Sound) {j : Option Ticket}
    (hc : c ∈ closings (traffic (l.eventsOf j))) : ∃ k, j = some k ∧ c ∈ l.openedBy k := by
  obtain ⟨x, hx, -⟩ := List.mem_filterMap.1 hc
  obtain ⟨k, t, rfl, ht⟩ := h.has_task hx
  obtain ⟨hconn, ho, hcl⟩ := h.connected ht
  refine ⟨k, rfl, ?_⟩
  rw [ho]
  apply hconn.closings_subset
  rw [← hcl]
  exact hc

theorem Sound.count_closed (h : l.Sound) (hk : c ∈ l.openedBy k) :
    l.closed.count c = (closings (l.trafficOf k)).count c := by
  rw [closed, trafficOf, closings_traffic, closings_traffic]
  apply count_part
  intro i hi
  rw [← closings_traffic] at hi
  obtain ⟨k', rfl, hk'⟩ := h.closer hi
  rw [h.opener_unique hk hk']

theorem Sound.opened_of_closed (h : l.Sound) (hc : c ∈ l.closed) : c ∈ l.opened := by
  rw [closed, closings_traffic] at hc
  obtain ⟨j, hj⟩ := mem_history hc
  rw [← closings_traffic] at hj
  obtain ⟨k, -, hk⟩ := h.closer hj
  exact opened_of_openedBy hk

theorem Sound.openedBy_le (h : l.Sound) (k : Ticket) : (l.openedBy k).length ≤ 1 := by
  cases ht : l.task? k with
  | some t =>
    obtain ⟨hconn, ho, -⟩ := h.connected ht
    rw [ho]
    exact hconn.openings_le
  | none =>
    cases hk : l.openedBy k with
    | nil => exact Nat.zero_le 1
    | cons c rest =>
      have hc : c ∈ l.openedBy k := by simp [hk]
      obtain ⟨x, hx, -⟩ := List.mem_filterMap.1 hc
      obtain ⟨k', t, he, ht'⟩ := h.has_task hx
      cases he
      rw [ht] at ht'
      cases ht'

/-- A task that is over has given up its connection, once. -/
theorem Sound.closed_once (h : l.Sound) (hr : k ∈ l.released) (hc : c ∈ l.openedBy k) :
    l.closed.count c = 1 := by
  obtain ⟨x, hx, -⟩ := List.mem_filterMap.1 hc
  obtain ⟨k', t, he, ht⟩ := h.has_task hx
  cases he
  obtain ⟨hconn, ho, hcl⟩ := h.connected ht
  have hover := hconn.closings_eq (h.owned.ended k hr)
  rw [h.count_closed hc, hcl]
  refine List.count_eq_one_of_mem hconn.nodup.2 ?_
  rw [hover, ← ho]
  exact hc

/-- An open connection is the one of a task that runs. -/
theorem Sound.live_running (h : l.Sound) (hc : c ∈ l.live) : ∃ k ∈ l.running, c ∈ l.openedBy k := by
  obtain ⟨hopen, hclosed⟩ := List.mem_filter.1 hc
  obtain ⟨k, t, ht, hk⟩ := h.opener hopen
  refine ⟨k, ?_, hk⟩
  have hr : k ∉ l.released := by
    intro hr
    have := h.closed_once hr hk
    have hm : c ∈ l.closed := List.count_pos_iff.1 (by omega)
    simp [hm] at hclosed
  have htaken : k ∈ l.taken := by
    by_contra hn
    rw [openedBy, h.accounts.seen k t ht, course_idle (h.tidy.idle k hn)] at hk
    cases hk
  simpa [running, htaken] using hr

end Connections

section Entries
variable {l l' : Ledger} {k : Ticket} {S : ServerId} {sub : String} {id : SessionId} {e : Listing}

/-- How a running task stands to what was entered for it. -/
theorem Sound.entered_shows (h : l.Sound) (he : (k, S, sub, id) ∈ l.entered)
    (hr : k ∉ l.released) : ∃ t w call c listed, l.task? k = some t ∧ t.server = S ∧
      l.hands w = some k ∧ l.gateway.pool.workers[w]? = some (.busy t call) ∧
      l.gateway.client? S = some c ∧
      Shows c w t call (l.course k).stage (some ⟨id, sub, listed⟩) ∧
      Holding.IsIn ⟨id, sub, listed⟩ c := by
  obtain ⟨hk, t, c, x, ht, hS, hc, -⟩ := h.owned.entered k S sub id he
  obtain ⟨w, hw⟩ := (h.tidy.held k).2 ⟨hk, hr⟩
  obtain ⟨t', call, hb, ht'⟩ := h.tidy.hand w k hw
  rw [ht] at ht'
  cases ht'
  subst hS
  obtain ⟨own, hs, ho⟩ := h.owned.running w k t call c hw ht hb hc
  cases own with
  | none => exact (ho _ he).elim
  | some hd =>
    have := h.owned.one k _ _ he ho.1
    simp only [Prod.mk.injEq] at this
    obtain ⟨-, rfl, rfl⟩ := this
    exact ⟨t, w, call, c, hd.isListed, ht, rfl, hw, hb, hc, hs, ho.2⟩

theorem Sound.lister (h : l.Sound) (he : e ∈ l.gateway.listings) :
    ∃ k, (k, e) ∈ l.entered ∧ k ∉ l.released ∧ k ∈ l.taken := by
  obtain ⟨S, sub, id⟩ := e
  obtain ⟨c, hc, hm⟩ := mem_listings.1 he
  obtain ⟨k, hk, hr⟩ := h.owned.listed S c sub id hc hm
  exact ⟨k, hk, hr, (h.owned.entered k S sub id hk).1⟩

/-- Only a task that subscribes enters anything. -/
theorem Sound.entered_subscribe (h : l.Sound) (he : (k, e) ∈ l.entered) (hr : k ∉ l.released) :
    ∃ t, l.task? k = some t ∧ t.operation.IsSubscribe := by
  obtain ⟨S, sub, id⟩ := e
  obtain ⟨t, w, call, c, listed, ht, -, -, -, -, hs, -⟩ := h.entered_shows he hr
  refine ⟨t, ht, ?_⟩
  cases hs with
  | sharing _ f hg hsub => exact isSubscribe_of_subject (h.turn ht).fits hsub

/-- An entry stays while its task does. -/
theorem Sound.keeps_listing (h : l.Sound) (h' : l'.Sound) (hk : l.Keeps l' k)
    (hent : (k, e) ∈ l.entered) (hr : k ∉ l.released) (he : e ∈ l.gateway.listings) :
    e ∈ l'.gateway.listings := by
  obtain ⟨S, sub, id⟩ := e
  have hr' : k ∉ l'.released := fun hm => hr (hk.released.1 hm)
  obtain ⟨t, w, call, c, listed, ht, hS, hw, -, hc, hs, hin⟩ := h.entered_shows hent hr
  obtain ⟨t', w', call', c', listed', ht', -, hw', -, hc', hs', hin'⟩ :=
    h'.entered_shows ((hk.entered _).2 hent) hr'
  have htask : l'.task? k = l.task? k := by simp only [task?, hk.order]
  rw [htask, ht] at ht'
  cases ht'
  obtain rfl := h'.tidy.alone _ _ _ hw' (hk.hands w hw).1
  rw [hk.course] at hs'
  obtain ⟨c₁, hc₁, hm⟩ := mem_listings.1 he
  rw [hc] at hc₁
  cases hc₁
  have hl : listed = true := ((hin sub).1 hm).1
  refine mem_listings.2 ⟨c', hc', (hin' sub).2 ⟨?_, rfl⟩⟩
  cases hs with
  | sharing _ f hg _ _ _ hf =>
    cases hs' with
    | sharing _ f' hg' _ _ _ hf' =>
      dsimp only at hg hg' hf hf'
      rw [hg] at hg'
      cases hg'
      rw [← hf', hf, hl]

/-- Only the worker of an entry's task takes it out. -/
theorem Sound.remover (h : l.Sound) {mv : Move} (ha : l.Allows mv) (hent : (k, e) ∈ l.entered)
    (hr : k ∉ l.released) (he : e ∈ l.gateway.listings) (hgone : e ∉ (l.move mv).gateway.listings) :
    ∃ w, mv.worker? = some w ∧ l.hands w = some k := by
  obtain ⟨t, ht, -⟩ := h.entered_subscribe hent hr
  rcases h.move_cases ha ht with ⟨w, i, taking, c, own, next, hw, -, hf, -⟩ | hk
  · refine ⟨w, hw, ?_⟩
    cases hf with
    | running call hh => exact hh
    | taking rest q hh hworker hl hwait =>
      obtain ⟨S, sub, id⟩ := e
      exact (h.tidy.not_taken hwait (h.owned.entered k S sub id hent).1).elim
  · exact (hgone (h.keeps_listing (h.move ha) hk hent hr he)).elim

end Entries

section Crew
variable {l l' : Ledger} {mv : Move} {codec : Codec} {config : Config}

theorem Tidy.nodup_taken (h : l.Tidy) : l.taken.Nodup := by
  have hn : (l.taken ++ l.waiting).Nodup := h.accepted ▸ nodup_accepted
  exact (List.nodup_append.1 hn).1

theorem Tidy.active_eq (h : l.Tidy) : l.gateway.pool.active = l.running.length := by
  have hperm : (l.taken.filter (· ∈ l.released)).Perm l.released := by
    refine (List.perm_ext_iff_of_nodup (h.nodup_taken.filter _) h.once).2 ?_
    intro k
    simpa using h.done k
  have hlen := List.length_eq_length_filter_add (l := l.taken) (fun k => decide (k ∈ l.released))
  have hact := h.active
  have hp := hperm.length_eq
  have hrun : l.running.length = (l.taken.filter fun k => !decide (k ∈ l.released)).length := by
    simp [running]
  omega

theorem length_proceed {g : Gateway} (w : WorkerId) (t : Task) (s : Step) :
    (g.proceed w t s).1.pool.workers.length = g.pool.workers.length := by
  cases hs : s.status with
  | going call => simp [proceed_going hs, Pool.set]
  | done r =>
    cases hf : (t.conclude r).follow with
    | some sub => simp [proceed_follow hs hf, Pool.set]
    | none =>
      rw [proceed_over hs hf]
      exact List.length_set

theorem length_worked (g : Gateway) (w : WorkerId) (a : Answer) :
    (g.workerStep w).1.pool.workers.length = g.pool.workers.length ∧
      (g.workerResume w a).1.pool.workers.length = g.pool.workers.length := by
  unfold Gateway.workerStep Gateway.workerResume
  constructor
  · split
    · split
      · split
        · rfl
        · exact List.length_set
        · dsimp only [Gateway.begin]
          split
          · exact List.length_set
          · split <;> exact length_proceed ..
      · rfl
    · split
      · rfl
      · exact length_proceed ..
    · rfl
  · split
    · split
      · rfl
      · exact length_proceed ..
    · rfl

/-- No move makes workers more or less. -/
theorem length_workers (l : Ledger) (mv : Move) :
    (l.move mv).gateway.pool.workers.length = l.gateway.pool.workers.length := by
  have hworked (w : WorkerId) (i : Input) (next : Gateway × List Event) :
      (l.worked w i next).gateway = next.1 := by
    unfold worked
    split <;> rfl
  cases mv with
  | discover | depart | shutDown => rfl
  | request caller r =>
    change (l.gateway.request caller r).2.1.pool.workers.length = _
    rcases request_cases l.gateway caller r with ⟨server, -, -, hp, -⟩ | ⟨-, hg, -⟩
    · rw [hp]
      rfl
    · rw [hg]
  | returnFrom i =>
    change (l.gateway.returnFrom i).1.pool.workers.length = _
    unfold Gateway.returnFrom
    split <;> rfl
  | work w =>
    change (l.worked w _ _).gateway.pool.workers.length = _
    rw [hworked]
    exact (length_worked l.gateway w .done).1
  | answer w a =>
    change (l.worked w _ _).gateway.pool.workers.length = _
    rw [hworked]
    exact (length_worked l.gateway w a).2

theorem length_of_reachable (h : Reachable codec config l) :
    l.gateway.pool.workers.length = max config.workers.toNat 1 := by
  induction h with
  | refl => exact List.length_replicate
  | snoc run allowed _ ih => rw [length_workers, ih]

end Crew

/-- What keeps a gateway with these settings from leaking. -/
structure NoLeaks (config : Config) (l : Ledger) : Prop where
  /-- The busy workers are as many as the tasks that run, and not more than there are workers. -/
  active : l.running.Nodup ∧ l.gateway.pool.active = l.running.length ∧
    l.gateway.pool.active ≤ max config.workers.toNat 1
  /-- A task opens one connection in its life, if any. -/
  one : ∀ k, (l.openedBy k).length ≤ 1
  /-- An open connection belongs to one running task. -/
  owned : ∀ c ∈ l.live, ∃ k ∈ l.running, c ∈ l.openedBy k ∧ ∀ k', c ∈ l.openedBy k' → k' = k
  few : l.live.length ≤ l.gateway.pool.active
  /-- An entry was put there for one running task that subscribes, whose worker alone removes it. -/
  listed : ∀ e ∈ l.gateway.listings, ∃ k ∈ l.running,
    (∃ t, l.task? k = some t ∧ t.operation.IsSubscribe) ∧
    (∀ k', (k', e) ∈ l.entered ↔ k' = k) ∧
    ∀ mv, l.Allows mv → e ∉ (l.move mv).gateway.listings →
      ∃ w, mv.worker? = some w ∧ l.hands w = some k
  /-- When a task is over, its connection was given up once and its entry is gone. -/
  released : ∀ k ∈ l.released, (∀ c ∈ l.openedBy k, l.closed.count c = 1) ∧
    ∀ e, (k, e) ∈ l.entered → e ∉ l.gateway.listings
  /-- When no worker is busy, nothing is listed and what was opened is what was given up. -/
  rest : l.gateway.pool.active = 0 → l.gateway.listings = [] ∧ l.opened.Perm l.closed

section Leaks
variable {l : Ledger} {c : ConnId} {k : Ticket} {e : Listing} {codec : Codec} {config : Config}

theorem nodup_running (h : l.Sound) : l.running.Nodup := h.tidy.nodup_taken.filter _

/-- The open connections are not more than the running tasks. -/
theorem Sound.live_le (h : l.Sound) : l.live.length ≤ l.running.length := by
  have hsub : l.live ⊆ l.running.flatMap l.openedBy := by
    intro c hc
    obtain ⟨k, hk, hm⟩ := h.live_running hc
    exact List.mem_flatMap.2 ⟨k, hk, hm⟩
  have hle : (l.running.flatMap l.openedBy).length ≤ l.running.length := by
    have (ks : List Ticket) : (ks.flatMap l.openedBy).length ≤ ks.length := by
      induction ks with
      | nil => exact Nat.le_refl 0
      | cons k ks ih =>
        rw [List.flatMap_cons, List.length_append, List.length_cons]
        have := h.openedBy_le k
        omega
    exact this l.running
  have hnodup : l.live.Nodup := h.accounts.distinct.filter _
  exact Nat.le_trans (hnodup.subperm hsub).length_le hle

theorem Sound.entered_unique (h : l.Sound) {k' : Ticket} (hk : (k, e) ∈ l.entered)
    (hk' : (k', e) ∈ l.entered) : k' = k := by
  obtain ⟨S, sub, id⟩ := e
  exact h.owned.unique _ _ _ _ _ _ hk' hk

/-- Nothing that was entered for a task that is over is still there. -/
theorem Sound.unlisted (h : l.Sound) (hr : k ∈ l.released) (he : (k, e) ∈ l.entered) :
    e ∉ l.gateway.listings := by
  intro hm
  obtain ⟨k', hk', hr', -⟩ := h.lister hm
  rw [h.entered_unique he hk'] at hr'
  exact hr' hr

theorem Sound.opened_perm_closed (h : l.Sound) (hr : l.running = []) : l.opened.Perm l.closed := by
  have hlive : l.live = [] := by
    have := h.live_le
    rw [hr] at this
    exact List.eq_nil_of_length_eq_zero (Nat.le_zero.1 this)
  have hclosed (c : ConnId) (hc : c ∈ l.opened) : c ∈ l.closed := by
    by_contra hno
    have : c ∈ l.live := List.mem_filter.2 ⟨hc, by simpa using hno⟩
    rw [hlive] at this
    cases this
  refine List.perm_iff_count.2 ?_
  intro c
  by_cases hc : c ∈ l.opened
  · obtain ⟨k, t, ht, hk⟩ := h.opener hc
    obtain ⟨hconn, -, hcl⟩ := h.connected ht
    have hcount := h.count_closed hk
    have hm : c ∈ closings (l.trafficOf k) := by
      rw [← List.count_pos_iff, ← hcount]
      exact List.count_pos_iff.2 (hclosed c hc)
    rw [hcl] at hm hcount
    rw [List.count_eq_one_of_mem h.accounts.distinct hc, hcount,
      List.count_eq_one_of_mem hconn.nodup.2 hm]
  · rw [List.count_eq_zero.2 hc, List.count_eq_zero.2 (fun hm => hc (h.opened_of_closed hm))]

/-- In every state that a gateway can come to, the open connections and the entries of all tables
belong to running tasks. -/
theorem no_leaks (h : Reachable codec config l) : l.NoLeaks config := by
  have hs := sound_of_reachable h
  have hactive := hs.tidy.active_eq
  have hcrew : l.gateway.pool.active ≤ max config.workers.toNat 1 := by
    rw [← length_of_reachable h]
    exact List.countP_le_length
  refine ⟨⟨nodup_running hs, hactive, hcrew⟩, hs.openedBy_le, ?_, ?_, ?_, ?_, ?_⟩
  · intro c hc
    obtain ⟨k, hk, hm⟩ := hs.live_running hc
    exact ⟨k, hk, hm, fun k' hk' => hs.opener_unique hk' hm⟩
  · rw [hactive]
    exact hs.live_le
  · intro e he
    obtain ⟨k, hent, hr, htaken⟩ := hs.lister he
    refine ⟨k, ?_, hs.entered_subscribe hent hr, ?_, ?_⟩
    · simpa [running, htaken] using hr
    · intro k'
      constructor
      · exact hs.entered_unique hent
      · rintro rfl
        exact hent
    · intro mv ha hgone
      exact hs.remover ha hent hr he hgone
  · intro k hr
    exact ⟨fun c hc => hs.closed_once hr hc, fun e he => hs.unlisted hr he⟩
  · intro h0
    rw [hactive] at h0
    have hnil := List.eq_nil_of_length_eq_zero h0
    refine ⟨?_, hs.opened_perm_closed hnil⟩
    refine List.eq_nil_iff_forall_not_mem.2 fun e he => ?_
    obtain ⟨k, -, hr, htaken⟩ := hs.lister he
    have : k ∈ l.running := by simpa [running, htaken] using hr
    rw [hnil] at this
    cases this

/-- A server is found, and a worker connects to it for a node that asks to join. -/
def connectedJoin : List Move :=
  [.discover (.added ⟨"space", "", ⟨"host", 1⟩⟩),
    .request "caller" ⟨"space", "node", "mark", 1, .join⟩, .work 0, .answer 0 (.connected 7)]

theorem no_leaks_of_connected_join :
    ((start Framed.codec {}).moveAll connectedJoin).NoLeaks {} := by
  refine @no_leaks _ Framed.codec {} (run_moveAll .refl ?_)
  refine ⟨⟨trivial, trivial⟩, ⟨trivial, trivial⟩, ⟨rfl, trivial⟩, ⟨⟨⟨_, rfl⟩, ?_⟩, trivial⟩, trivial⟩
  rintro c - hc
  cases hc

example : ((start Framed.codec {}).moveAll connectedJoin).live = [7] := by
  rfl

end Leaks
end Ledger
end SpaceGateway
