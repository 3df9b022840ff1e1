import SpaceGateway.Proofs.Tenure
/-!
What holds in every state that a gateway can come to: the books are right, the servers are held by
those who need them, the sessions are owned, and what was sent for a ticket is what the course of its
task has it to be.
-/
namespace SpaceGateway

section Discovery
variable {g : Gateway} {l : Ledger}

theorem client?_congr {g g' : Gateway} (h : g'.registry = g.registry) (S : ServerId) :
    g'.client? S = g.client? S := by
  simp [Gateway.client?, h]

theorem add_reclient (info : ServerInfo) (S : ServerId) :
    g.Reclient { g with registry := (g.registry.add info).2.1 } S := by
  unfold Registry.add
  cases g.registry.find? info.identity with
  | some id => exact .same rfl
  | none =>
    rcases Nat.lt_trichotomy S g.registry.servers.length with hlt | rfl | hgt
    · refine .same ?_
      simp [Gateway.client?, List.getElem?_append_left hlt]
    · refine .made { peer := ⟨info.identity, info.address, g.registry.receiveBuffer⟩ } ?_ ?_ rfl rfl
      · simp [Gateway.client?]
      · simp [Gateway.client?, Server.create]
    · refine .same ?_
      have h₁ : g.registry.servers[S]? = none := List.getElem?_eq_none (Nat.le_of_lt hgt)
      have h₂ : (g.registry.servers ++
          [(Server.create g.registry.receiveBuffer info).1])[S]? = none := by
        apply List.getElem?_eq_none
        simpa using Nat.succ_le_of_lt hgt
      simp only [Gateway.client?, h₁]
      rw [h₂]

/-- A server that is unlinked is let go. Its tasks alone hold it then. -/
theorem remove_cases (h : g.Housed) (identity : String) :
    g.registry.find? identity = none ∧
        g.registry.remove identity = (false, g.registry, []) ∨
      ∃ S sv, g.registry.find? identity = some S ∧ g.registry.servers[S]? = some sv ∧
        sv.holders = g.pool.holding S + 1 ∧
        g.registry.remove identity =
          (true, { g.registry with
            linked := g.registry.linked.erase S
            servers := g.registry.servers.set S sv.letGo.1 },
            .log (.serverRemoved identity (g.pool.holding S)) :: sv.letGo.2) := by
  unfold Registry.remove
  cases hf : g.registry.find? identity with
  | none => exact .inl ⟨rfl, rfl⟩
  | some S =>
    right
    have hmem : S ∈ g.registry.linked := List.mem_of_find?_eq_some hf
    have hlt := h.known S hmem
    have hs := List.getElem?_eq_getElem hlt
    have hc : g.registry.linked.count S = 1 := List.count_eq_one_of_mem h.linked hmem
    have hh : g.registry.servers[S].holders = g.pool.holding S + 1 := by
      rw [h.holders S _ hs, hc, Nat.add_comm]
    have hl := @registry_letGo { g.registry with linked := g.registry.linked.erase S } S _ hs
    refine ⟨S, _, rfl, hs, hh, ?_⟩
    simp [hs, hl, hh]

theorem remove_reclient (h : g.Housed) (identity : String) (S : ServerId) :
    g.Reclient { g with registry := (g.registry.remove identity).2.1 } S := by
  rcases remove_cases h identity with ⟨-, hr⟩ | ⟨id, sv, -, hs, hh, hr⟩
  · rw [hr]
    exact .same rfl
  · rw [hr]
    obtain ⟨hlt, -⟩ := List.getElem?_eq_some_iff.1 hs
    by_cases he : S = id
    · subst he
      have hold : g.client? S = some sv.client := by simp [Gateway.client?, hs]
      rcases @letGo_client sv with ⟨hc, -⟩ | ⟨h1, hc, -⟩
      · exact .same (by rw [hold]; simp [Gateway.client?, hlt, hc])
      · refine .gone sv.client hold ?_ ?_
        · simp [Gateway.client?, hlt, hc]
        · intro w t call hw
          refine Pool.holding_eq_zero ?_ hw
          omega
    · refine .same ?_
      simp only [Gateway.client?]
      rw [List.getElem?_set_ne (Ne.symm he)]

theorem discover_reclient (h : g.Housed) (news : Discovery) (S : ServerId) :
    g.Reclient (g.discover news).1 S := by
  cases news with
  | added info => exact add_reclient info S
  | removed identity => exact remove_reclient h identity S
  | invalid identity => exact remove_reclient h identity S

theorem remove_quietly (h : l.Owned) (hT : l.Tidy) (hH : l.gateway.Housed) (identity : String) :
    traffic (l.gateway.registry.remove identity).2.2 = [] := by
  rcases remove_cases hH identity with ⟨-, hr⟩ | ⟨S, sv, -, hs, hh, hr⟩
  · rw [hr]
    rfl
  · rw [hr, traffic_log_cons]
    rcases @letGo_client sv with ⟨-, hl⟩ | ⟨h1, -, hl⟩
    · rw [hl]
      rfl
    · rw [hl]
      exact traffic_abandon (h.quiet_of_unheld hT hs (by omega)).1

/-- News of servers close no connection. -/
theorem discover_quietly (h : l.Owned) (hT : l.Tidy) (hH : l.gateway.Housed) (news : Discovery) :
    traffic (l.gateway.discover news).2 = [] := by
  cases news with
  | added info =>
    simp only [Gateway.discover, Registry.discover, traffic_log_cons, Registry.add]
    split <;> simp [Server.create]
  | removed identity => simpa [Gateway.discover, Registry.discover] using remove_quietly h hT hH _
  | invalid identity => simpa [Gateway.discover, Registry.discover] using remove_quietly h hT hH _

end Discovery

namespace Ledger

section Seen
variable {l : Ledger} {j k : Option Ticket} {next : Gateway × List Event}

theorem eventsOf_note :
    (l.note j next).eventsOf k = l.eventsOf k ++ if j = k then next.2 else [] := by
  have h (ev : List Event) :
      (ev.map (j, ·)).filterMap (fun x => if x.1 = k then some x.2 else none) =
        if j = k then ev else [] := by
    rw [List.filterMap_map]
    by_cases hj : j = k
    · simp [hj]
    · simp [hj]
  rw [← h]
  exact List.filterMap_append

theorem opened_note : (l.note j next).opened = l.opened ++ openings (traffic next.2) := by
  simp [opened, note, Function.comp_def]

theorem note_nil {g : Gateway} : l.note j (g, []) = { l with gateway := g } := by
  simp [note]

end Seen

/-- What was seen for a ticket is what the course of its task has, or what a rejection brings. -/
structure Accounts (l : Ledger) : Prop where
  replied : ∀ k t, l.task? k = some t → l.repliesOf k = (l.course k).replies.map (t.caller, ·)
  seen : ∀ k t, l.task? k = some t → l.trafficOf k = (l.course k).traffic
  rejected : ∀ k o, l.orders[k]? = some o → o.server = none →
    l.repliesOf k =
      (Reply.failure? o.request.access o.request.operation).toList.map (o.caller, ·) ∧
    l.trafficOf k = []
  unmade : ∀ k, l.orders.length ≤ k → l.eventsOf (some k) = []
  stray : replies (l.eventsOf none) = [] ∧ traffic (l.eventsOf none) = []
  distinct : l.opened.Nodup

structure Sound (l : Ledger) : Prop where
  tidy : l.Tidy
  housed : l.gateway.Housed
  owned : l.Owned
  accounts : l.Accounts

section Attend
variable {l : Ledger} {w : WorkerId} {k : Ticket} {t : Task} {taking : Bool} {i : Input}
variable {c c' : Client} {call? : Option Call} {own : Option Holding} {n : Turn}
variable {next : Gateway × List Event}

theorem attended_peer (hf : l.Faces w k t taking) (hH : l.gateway.Housed)
    (hc : l.gateway.client? t.server = some c) (hp : c'.peer = c.peer)
    (ha : l.gateway.Attended w t taking c' call? n next) (S : ServerId) (c₁ : Client)
    (hS : l.gateway.client? S = some c₁) :
    ∃ c₂, next.1.client? S = some c₂ ∧ c₂.peer = c₁.peer := by
  have hstay : ∃ c₂, ({ next.1 with
      registry := l.gateway.registry.withClient t.server c' } : Gateway).client? S = some c₂ ∧
      c₂.peer = c₁.peer := by
    rw [client?_withClient hc rfl]
    by_cases he : S = t.server
    · subst he
      rw [hc] at hS
      cases hS
      exact ⟨c', if_pos rfl, hp⟩
    · exact ⟨c₁, (if_neg he).trans hS, rfl⟩
  cases call? with
  | some call =>
    have hr : next.1.registry = l.gateway.registry.withClient t.server c' := ha.registry
    rw [← hr] at hstay
    exact hstay
  | none =>
    obtain ⟨c₂, h₂, hp₂⟩ := hstay
    have hre := @released_reclient l w k t taking c c' n next hf hH hc ha
      { next.1 with registry := l.gateway.registry.withClient t.server c' } rfl rfl S
    obtain ⟨c₃, h₃, hp₃⟩ := hre.peer h₂
    exact ⟨c₃, h₃, hp₃.trans hp₂⟩

/-- A step for a ticket is the next turn of its course, and leaves the other courses. -/
theorem Sound.course_attend (h : l.Sound) (hf : l.Faces w k t taking)
    (hc : l.gateway.client? t.server = some c)
    (ha : l.gateway.Attended w t taking c' call? n next) (hp : c'.peer = c.peer) (j : Ticket) :
    (l.attend w k i next).course j = if j = k then
        (l.course k).followedBy ((l.course k).stage.next l.gateway.codec c.peer t i)
      else l.course j := by
  have hpeer := attended_peer hf h.housed hc hp ha
  split
  · rename_i hj
    subst hj
    obtain ⟨c₂, h₂, hp₂⟩ := hpeer _ c hc
    have ht : (l.attend w j i next).task? j = some t := hf.task
    rw [course_eq ht h₂, course_eq hf.task hc, hp₂, ← course_snoc]
    have hi : (l.attend w j i next).inputs j = l.inputs j ++ [i] := Function.update_self ..
    have hcodec : (l.attend w j i next).gateway.codec = l.gateway.codec := ha.codec
    rw [hi, hcodec]
  · rename_i hj
    have hi : (l.attend w k i next).inputs j = l.inputs j := Function.update_of_ne hj ..
    exact h.owned.course_congr rfl ha.codec hi hpeer

theorem order_lt {o : Order} (h : l.orders[k]? = some o) : k < l.orders.length :=
  (List.getElem?_eq_some_iff.1 h).1

theorem task_lt (h : l.task? k = some t) : k < l.orders.length := by
  obtain ⟨o, ho, -⟩ := Option.bind_eq_some_iff.1 h
  exact order_lt ho

theorem eventsOf_attend (j : Option Ticket) :
    (l.attend w k i next).eventsOf j = l.eventsOf j ++ if some k = j then next.2 else [] :=
  eventsOf_note

theorem eventsOf_attend_self :
    (l.attend w k i next).eventsOf (some k) = l.eventsOf (some k) ++ next.2 := by
  rw [eventsOf_attend, if_pos rfl]

theorem eventsOf_attend_other {j : Option Ticket} (hj : some k ≠ j) :
    (l.attend w k i next).eventsOf j = l.eventsOf j := by
  rw [eventsOf_attend, if_neg hj, List.append_nil]

/-- A connection that a step opens is a new one. -/
theorem Sound.distinct_attend (h : l.Sound) (hf : l.Faces w k t taking)
    (hc : l.gateway.client? t.server = some c) (htraffic : traffic next.2 = n.traffic)
    (hn : n = (l.course k).stage.next l.gateway.codec c.peer t i)
    (hfresh : ∀ conn, i = .answer (.connected conn) → conn ∉ l.opened) :
    (l.attend w k i next).opened.Nodup := by
  have hsound : (l.course k).Sound t := by
    rw [course_eq hf.task hc]
    exact course_sound _
  have he : (l.attend w k i next).opened = l.opened ++ openings n.traffic := by
    rw [← htraffic]
    exact opened_note
  have hnext := (@sound_next l.gateway.codec c.peer t _ hsound i).connected.nodup.1
  rw [Turn.followedBy, openings_append, ← hn] at hnext
  rw [he]
  refine List.nodup_append.2 ⟨h.accounts.distinct, (List.nodup_append.1 hnext).2.1, ?_⟩
  rintro x hx y hy rfl
  rw [hn] at hy
  exact hfresh x (next_openings hsound hy) hx

theorem Sound.accounts_attend (h : l.Sound) (hf : l.Faces w k t taking)
    (hc : l.gateway.client? t.server = some c) (ho : l.Owns k t c own)
    (ha : l.gateway.Attended w t taking c' call? n next)
    (hadv : Advances c w t own c' call? n.stage)
    (hn : n = (l.course k).stage.next l.gateway.codec c.peer t i)
    (hfresh : ∀ conn, i = .answer (.connected conn) → conn ∉ l.opened) :
    (l.attend w k i next).Accounts := by
  have hcourse := @Sound.course_attend l w k t taking i c c' call? n next h hf hc ha hadv.peer
  have hquiet := h.owned.attend_quietly h.tidy h.housed hf hc ho ha hadv hn
  have htraffic : traffic next.2 = n.traffic := by rw [ha.traffic, hquiet, List.append_nil]
  have hacc := h.accounts
  refine ⟨?_, ?_, ?_, ?_, ?_, ?_⟩
  · intro j t' ht'
    rw [hcourse, repliesOf]
    by_cases hj : j = k
    · subst hj
      cases hf.task.symm.trans ht'
      have hold := hacc.replied j t ht'
      rw [repliesOf] at hold
      rw [if_pos rfl, eventsOf_attend_self, replies_append, hold, ha.replies, hn]
      exact List.map_append.symm
    · rw [if_neg hj, eventsOf_attend_other (fun he => hj (Option.some.inj he).symm)]
      exact hacc.replied j t' ht'
  · intro j t' ht'
    rw [hcourse, trafficOf]
    by_cases hj : j = k
    · subst hj
      cases hf.task.symm.trans ht'
      have hold := hacc.seen j t ht'
      rw [trafficOf] at hold
      rw [if_pos rfl, eventsOf_attend_self, traffic_append, hold, htraffic, hn]
      rfl
    · rw [if_neg hj, eventsOf_attend_other (fun he => hj (Option.some.inj he).symm)]
      exact hacc.seen j t' ht'
  · intro j o hj hs
    have hne : some k ≠ some j := by
      intro he
      have ht := hf.task
      rw [Option.some.inj he, task?, show l.orders[j]? = some o from hj] at ht
      simp [Order.task?, hs] at ht
    rw [repliesOf, trafficOf, eventsOf_attend_other hne]
    exact hacc.rejected j o hj hs
  · intro j hj
    have hne : some k ≠ some j := by
      intro he
      have := task_lt hf.task
      rw [Option.some.inj he] at this
      exact Nat.not_lt.2 hj this
    rw [eventsOf_attend_other hne]
    exact hacc.unmade j hj
  · rw [eventsOf_attend_other (by simp)]
    exact hacc.stray
  · exact h.distinct_attend hf hc htraffic hn hfresh

theorem Sound.attend (h : l.Sound) (hf : l.Faces w k t taking)
    (hc : l.gateway.client? t.server = some c) (ho : l.Owns k t c own)
    (hs : l.gateway.Serves w t taking c own
      ((l.course k).stage.next l.gateway.codec c.peer t i) next)
    (hfresh : ∀ conn, i = .answer (.connected conn) → conn ∉ l.opened) :
    (l.attend w k i next).Sound := by
  obtain ⟨c', call?, ha, hadv⟩ := hs
  refine ⟨h.tidy.attend hf ha.pool i, housed_attended h.housed hf ha, ?_, ?_⟩
  · exact h.owned.attend h.tidy h.housed hf hc ho ha hadv rfl
  · exact h.accounts_attend hf hc ho ha hadv rfl hfresh

end Attend
section Moves
variable {l : Ledger} {k : Ticket} {next : Gateway × List Event}

/-- What is seen for no ticket, when it is nothing on the network and no reply. -/
theorem Sound.note (h : l.Sound) (hT : (l.note none next).Tidy) (hH : next.1.Housed)
    (hcodec : next.1.codec = l.gateway.codec)
    (hb : ∀ (w : WorkerId) (t : Task) (call : Call), next.1.pool.workers[w]? = some (.busy t call) →
      l.gateway.pool.workers[w]? = some (.busy t call))
    (hc : ∀ S, l.gateway.Reclient next.1 S) (hr : replies next.2 = [])
    (ht : traffic next.2 = []) : (l.note none next).Sound := by
  have hcourse (j : Ticket) : (l.note none next).course j = l.course j :=
    h.owned.course_congr rfl hcodec rfl fun S _ hS => (hc S).peer hS
  have hold (j : Ticket) : (l.note none next).eventsOf (some j) = l.eventsOf (some j) := by
    rw [eventsOf_note, if_neg (by simp), List.append_nil]
  have hacc := h.accounts
  refine ⟨hT, hH, h.owned.rebase _ hcodec hb hc, ?_, ?_, ?_, ?_, ?_, ?_⟩
  · intro j t hj
    rw [repliesOf, hold, hcourse]
    exact hacc.replied j t hj
  · intro j t hj
    rw [trafficOf, hold, hcourse]
    exact hacc.seen j t hj
  · intro j o hj hs
    rw [repliesOf, trafficOf, hold]
    exact hacc.rejected j o hj hs
  · intro j hj
    rw [hold]
    exact hacc.unmade j hj
  · rw [eventsOf_note, if_pos rfl, replies_append, traffic_append, hr, ht]
    simpa using hacc.stray
  · rw [opened_note, ht]
    simpa [openings] using hacc.distinct

/-- The gateway goes on with the same tasks. -/
theorem Sound.goes (h : l.Sound) {g : Gateway} (hcodec : g.codec = l.gateway.codec)
    (hr : g.registry = l.gateway.registry) (hw : g.pool.workers = l.gateway.pool.workers)
    (hl : g.pool.line = l.gateway.pool.line) (hq : g.pool.queue = l.gateway.pool.queue)
    (ev : List Event) (hev : replies ev = []) (htr : traffic ev = []) :
    (l.note none (g, ev)).Sound := by
  refine h.note ?_ ?_ hcodec ?_ ?_ hev htr
  · refine h.tidy.rebase _ ⟨?_, ?_⟩ hq ?_ ?_
    · rw [hl]
      exact h.tidy.pool.nodup
    · rw [hl, hw]
      exact h.tidy.pool.mem_line
    · rw [hw]
      exact fun _ _ _ => Iff.rfl
    · simp only [Pool.active, hw]
  · refine h.housed.rebase hr hq ?_ ?_
    · simp only [Pool.holding, hw, hq, implies_true]
    · rw [hw]
      exact fun _ _ _ hb => hb
  · dsimp only
    rw [hw]
    exact fun _ _ _ hb => hb
  · exact fun S => .same (client?_congr hr S)

theorem discover_pool (g : Gateway) (news : Discovery) :
    (g.discover news).1.pool = g.pool ∧ (g.discover news).1.codec = g.codec := ⟨rfl, rfl⟩

theorem replies_remove (r : Registry) (identity : String) :
    replies (r.remove identity).2.2 = [] := by
  unfold Registry.remove
  split
  · rfl
  · rw [replies_log_cons, replies_letGo]

theorem replies_discover (g : Gateway) (news : Discovery) : replies (g.discover news).2 = [] := by
  cases news with
  | added info =>
    simp only [Gateway.discover, Registry.discover, replies_log_cons, Registry.add]
    split <;> simp [Server.create]
  | removed identity => simp [Gateway.discover, Registry.discover, replies_remove]
  | invalid identity => simp [Gateway.discover, Registry.discover, replies_remove]

theorem Sound.discover (h : l.Sound) (news : Discovery) :
    (l.note none (l.gateway.discover news)).Sound := by
  have hp := discover_pool l.gateway news
  refine h.note (h.tidy.note hp.1) (housed_discover h.housed news) hp.2 ?_ ?_ ?_ ?_
  · rw [hp.1]
    exact fun _ _ _ hb => hb
  · exact discover_reclient h.housed news
  · exact replies_discover _ news
  · exact discover_quietly h.owned h.tidy h.housed news

theorem Sound.returnFrom (h : l.Sound) (i : Nat) :
    (l.note none (l.gateway.returnFrom i)).Sound := by
  unfold Gateway.returnFrom
  split
  · refine h.goes ?_ ?_ ?_ ?_ ?_ _ ?_ ?_ <;> rfl
  · refine h.goes ?_ ?_ ?_ ?_ ?_ _ ?_ ?_ <;> rfl

end Moves
section Requests
variable {l : Ledger} {k : Ticket} {g : Gateway} {o : Order} {waiting : List Ticket}
variable {history : List (Option Ticket × Event)}

theorem task?_ordered (hk : k ≠ l.orders.length) :
    task? { l with gateway := g, orders := l.orders ++ [o], waiting, history } k = l.task? k :=
  (task?_append rfl).trans (if_neg hk)

theorem course_ordered (hk : k ≠ l.orders.length) (hcodec : g.codec = l.gateway.codec)
    (hc : ∀ S, g.client? S = l.gateway.client? S) :
    course { l with gateway := g, orders := l.orders ++ [o], waiting, history } k = l.course k := by
  unfold course
  rw [task?_ordered hk, hcodec]
  simp only [hc]

theorem course_idle (h : l.inputs k = []) : l.course k = ⟨.queued, [], []⟩ := by
  unfold course
  rw [h]
  split
  · split <;> rfl
  · rfl

/-- A new request changes nothing for the tasks there are. -/
theorem Owned.order (h : l.Owned) (hT : l.Tidy) (hcodec : g.codec = l.gateway.codec)
    (hw : g.pool.workers = l.gateway.pool.workers) (hc : ∀ S, g.client? S = l.gateway.client? S)
    (ho : ∀ t, o.task? = some t → ∃ c, l.gateway.client? t.server = some c) :
    Owned { l with gateway := g, orders := l.orders ++ [o], waiting, history } := by
  have htaken {j : Ticket} (hj : j ∈ l.taken) : j ≠ l.orders.length :=
    hT.task_ne (List.mem_append_left _ hj)
  refine ⟨?_, ?_, ?_, ?_, h.one, h.unique, ?_, ?_, ?_⟩
  · intro j t ht
    rw [hc]
    by_cases hj : j = l.orders.length
    · rw [task?_append rfl, if_pos hj] at ht
      exact ho t ht
    · rw [task?_ordered hj] at ht
      exact h.known j t ht
  · intro w j t call c hh ht hb hcl
    have hj := htaken ((hT.held j).1 ⟨w, hh⟩).1
    rw [task?_ordered hj] at ht
    rw [course_ordered hj hcodec hc]
    rw [hw] at hb
    rw [hc] at hcl
    exact h.running w j t call c hh ht hb hcl
  · intro j hj
    rw [course_ordered (htaken (hT.done j hj)) hcodec hc]
    exact h.ended j hj
  · intro j S sub id he
    obtain ⟨hj, t, c, x, ht, hS, hcl, hx⟩ := h.entered j S sub id he
    exact ⟨hj, t, c, x, (task?_ordered (htaken hj)).trans ht, hS, (hc S).trans hcl, hx⟩
  · intro S c id x hcl hx
    exact h.creator S c id x ((hc S).symm.trans hcl) hx
  · intro S c sub id hcl hm
    exact h.listed S c sub id ((hc S).symm.trans hcl) hm
  · intro S c hcl
    exact h.keys S c ((hc S).symm.trans hcl)

variable {ev : List Event}

theorem eventsOf_ordered {j : Option Ticket} (hj : j ≠ some l.orders.length) :
    eventsOf { l with
      gateway := g
      orders := l.orders ++ [o]
      waiting
      history := l.history ++ ev.map (some l.orders.length, ·) } j = l.eventsOf j := by
  refine (@eventsOf_note l (some l.orders.length) j (g, ev)).trans ?_
  rw [if_neg (Ne.symm hj), List.append_nil]

/-- A new request has its own events and no others. -/
theorem Accounts.eventsOf_new (h : l.Accounts) :
    eventsOf { l with
      gateway := g
      orders := l.orders ++ [o]
      waiting
      history := l.history ++ ev.map (some l.orders.length, ·) } (some l.orders.length) = ev := by
  refine (@eventsOf_note l (some l.orders.length) (some l.orders.length) (g, ev)).trans ?_
  rw [if_pos rfl, h.unmade _ (Nat.le_refl _), List.nil_append]

theorem course_new (hT : l.Tidy) :
    course { l with gateway := g, orders := l.orders ++ [o], waiting, history } l.orders.length =
      ⟨.queued, [], []⟩ := by
  apply course_idle
  apply hT.idle
  intro hk
  exact hT.task_ne (List.mem_append_left _ hk) rfl

/-- What is known of the replies to a new request. -/
theorem Accounts.order (h : l.Accounts) (hT : l.Tidy) (hcodec : g.codec = l.gateway.codec)
    (hc : ∀ S, g.client? S = l.gateway.client? S)
    (hr : replies ev = if o.server = none then
      (Reply.failure? o.request.access o.request.operation).toList.map (o.caller, ·) else [])
    (ht : traffic ev = []) :
    Accounts { l with
      gateway := g
      orders := l.orders ++ [o]
      waiting
      history := l.history ++ ev.map (some l.orders.length, ·) } := by
  have hother {j : Ticket} (hj : j ≠ l.orders.length) : some j ≠ some l.orders.length :=
    fun he => hj (Option.some.inj he)
  refine ⟨?_, ?_, ?_, ?_, ?_, ?_⟩
  · intro j t hj
    by_cases he : j = l.orders.length
    · subst he
      rw [task?_append rfl, if_pos rfl] at hj
      have hs : o.server ≠ none := by
        intro hs
        simp [Order.task?, hs] at hj
      rw [repliesOf, h.eventsOf_new, course_new hT, hr, if_neg hs]
      rfl
    · rw [task?_ordered he] at hj
      rw [repliesOf, eventsOf_ordered (hother he), course_ordered he hcodec hc]
      exact h.replied j t hj
  · intro j t hj
    by_cases he : j = l.orders.length
    · subst he
      rw [trafficOf, h.eventsOf_new, course_new hT, ht]
    · rw [task?_ordered he] at hj
      rw [trafficOf, eventsOf_ordered (hother he), course_ordered he hcodec hc]
      exact h.seen j t hj
  · intro j o' hj hs
    by_cases he : j = l.orders.length
    · subst he
      rw [List.getElem?_concat_length] at hj
      cases hj
      rw [repliesOf, trafficOf, h.eventsOf_new, hr, if_pos hs, ht]
      exact ⟨rfl, rfl⟩
    · have hlt : j < l.orders.length := by
        have := order_lt hj
        simp only [List.length_append, List.length_singleton] at this
        exact Nat.lt_of_le_of_ne (Nat.le_of_lt_succ this) he
      dsimp only at hj
      rw [List.getElem?_append_left hlt] at hj
      rw [repliesOf, trafficOf, eventsOf_ordered (hother he)]
      exact h.rejected j o' hj hs
  · intro j hj
    simp only [List.length_append, List.length_singleton] at hj
    rw [eventsOf_ordered (hother (Nat.ne_of_gt hj))]
    exact h.unmade j (Nat.le_of_lt hj)
  · rw [eventsOf_ordered (by simp)]
    exact h.stray
  · have ho := @opened_note l (some l.orders.length) (g, ev)
    rw [ht] at ho
    have hd := h.distinct
    rw [← List.append_nil l.opened, ← show openings [] = [] from rfl, ← ho] at hd
    exact hd

/-- Whoever holds a server leaves its client as it is. -/
theorem client?_hold {g g' : Gateway} {server : ServerId}
    (h : g'.registry = g.registry.hold server) (S : ServerId) : g'.client? S = g.client? S := by
  simp only [Gateway.client?, h, Registry.hold, Registry.modify, List.getElem?_modify]
  cases g.registry.servers[S]? with
  | none => rfl
  | some sv =>
    by_cases hs : server = S <;> simp [hs, Server.hold]

theorem Sound.order (h : l.Sound) (caller : CallerId) (r : CallerRequest) :
    (l.order caller r).Sound := by
  have hT := h.tidy.order caller r
  rcases request_cases l.gateway caller r with
    ⟨server, hf, hr, hp, hreg, hcodec, hev, htr⟩ | ⟨⟨e, hr⟩, hg, hev, htr⟩
  · have hmem : server ∈ l.gateway.registry.linked := List.mem_of_find?_eq_some hf
    have hcl := client?_hold hreg
    have hw : (l.gateway.request caller r).2.1.pool.workers = l.gateway.pool.workers := by
      rw [hp]
      rfl
    rw [order_taken hf hr] at hT ⊢
    refine ⟨hT, housed_submit h.housed hmem caller r hreg hp, ?_, ?_⟩
    · refine h.owned.order h.tidy hcodec hw hcl ?_
      intro t ht
      cases ht
      have hlt := h.housed.known server hmem
      exact ⟨_, by simp [Gateway.client?, Task.ofRequest, List.getElem?_eq_getElem hlt]; rfl⟩
    · exact h.accounts.order h.tidy hcodec hcl hev htr
  · rw [order_rejected hr hg] at hT ⊢
    refine ⟨hT, h.housed, ?_, ?_⟩
    · refine h.owned.order h.tidy rfl rfl (fun _ => rfl) ?_
      intro t ht
      cases ht
    · exact h.accounts.order h.tidy rfl (fun _ => rfl) hev htr

end Requests
section Workers
variable {l : Ledger} {w : WorkerId} {k : Ticket} {t : Task}

theorem holding_leave {p : Pool} (hw : p.workers[w]? = some .inLine) (S : ServerId) :
    (p.leave w).holding S = p.holding S := by
  obtain ⟨hlt, hget⟩ := List.getElem?_eq_some_iff.1 hw
  simp [Pool.holding, Pool.leave, Pool.set, List.countP_set hlt, hget, Worker.isFor]

/-- A worker that leaves for good had no task. -/
theorem Sound.leave (h : l.Sound) (hw : l.gateway.pool.workers[w]? = some .inLine)
    (hl : l.gateway.pool.line.head? = some w) :
    (l.note none ({ l.gateway with pool := l.gateway.pool.leave w },
      [.log .workerStopped])).Sound := by
  have hb (w' : WorkerId) (t : Task) (call : Call)
      (hb : (l.gateway.pool.leave w).workers[w']? = some (.busy t call)) :
      l.gateway.pool.workers[w']? = some (.busy t call) := by
    obtain ⟨hlt, -⟩ := List.getElem?_eq_some_iff.1 hw
    by_cases he : w' = w
    · subst he
      simp [Pool.leave, Pool.set, hlt] at hb
    · simpa [Pool.leave, Pool.set, List.getElem?_set_ne (Ne.symm he)] using hb
  refine h.note (h.tidy.leave hw hl _) ?_ rfl hb (fun S => .same rfl) rfl rfl
  exact h.housed.rebase rfl rfl (holding_leave hw) hb

/-- A step of a worker without a ticket changes nothing, unless the worker leaves for good. -/
theorem workerStep_idle (h : l.Tidy) (hk : l.ticket? w = none) :
    l.gateway.workerStep w = (l.gateway, []) ∨
      l.gateway.pool.workers[w]? = some .inLine ∧ l.gateway.pool.line.head? = some w ∧
        l.gateway.workerStep w =
          ({ l.gateway with pool := l.gateway.pool.leave w }, [.log .workerStopped]) := by
  unfold ticket? at hk
  unfold Gateway.workerStep
  cases hw : l.gateway.pool.workers[w]? with
  | none => exact .inl rfl
  | some worker =>
    rw [hw] at hk
    cases worker with
    | stopped => exact .inl rfl
    | busy t call =>
      obtain ⟨k, hh⟩ := h.busy w t call hw
      rw [hh] at hk
      cases hk
    | inLine =>
      by_cases hl : l.gateway.pool.line.head? = some w
      · simp only [hl, if_true] at hk ⊢
        have hq := h.queue
        rw [List.head?_eq_none_iff.1 hk, List.map_nil, List.map_eq_nil_iff] at hq
        simp only [Pool.chance, hq]
        by_cases ha : l.gateway.pool.accepting
        · left
          simp [ha]
        · right
          simp [ha]
      · left
        simp [hl]

theorem workerResume_idle (h : l.Tidy) (hk : l.ticket? w = none) (a : Answer) :
    l.gateway.workerResume w a = (l.gateway, []) := by
  unfold ticket? at hk
  unfold Gateway.workerResume
  cases hw : l.gateway.pool.workers[w]? with
  | none => rfl
  | some worker =>
    rw [hw] at hk
    cases worker with
    | stopped | inLine => rfl
    | busy t call =>
      obtain ⟨k, hh⟩ := h.busy w t call hw
      rw [hh] at hk
      cases hk

/-- A worker in line waits for no answer. -/
theorem workerNeed_inLine {g : Gateway} (hw : g.pool.workers[w]? = some .inLine) {d : Demand} :
    g.workerNeed w ≠ .answer d := by
  intro hd
  simp only [Gateway.workerNeed, hw] at hd
  split at hd
  · split at hd <;> cases hd
  · cases hd

theorem Sound.turn (h : l.Sound) (ht : l.task? k = some t) : (l.course k).Sound t := by
  obtain ⟨c, hc⟩ := h.owned.known k t ht
  rw [course_eq ht hc]
  exact course_sound _

/-- A step of a worker for a ticket goes on with the call of its task, as the next turn of the
ticket's course has it. -/
theorem Sound.proceeds (h : l.Sound) {taking : Bool} (hf : l.Faces w k t taking) :
    ∃ c own, l.gateway.client? t.server = some c ∧ l.Owns k t c own ∧
      (∃ s, l.gateway.Proceeds w t taking c own
        ((l.course k).stage.next l.gateway.codec c.peer t (.step (l.gateway.findsFree w))) s
        (l.gateway.workerStep w)) ∧
      (taking = false → ∀ a, ∃ s, l.gateway.Proceeds w t taking c own
        ((l.course k).stage.next l.gateway.codec c.peer t (.answer a)) s
        (l.gateway.workerResume w a)) := by
  obtain ⟨c, own, hc, ho, htaking, hshows⟩ := h.owned.shows h.tidy hf
  have hfits := (h.turn hf.task).fits
  refine ⟨c, own, hc, ho, ?_⟩
  cases hf with
  | taking rest q hh hw hl hr hq ht =>
    obtain ⟨rfl, hstage⟩ := htaking rfl
    rw [hstage]
    exact ⟨workerStep_takes hw hl hq hc _, by simp⟩
  | running call hh hw ht =>
    have hs := hshows call hw rfl
    exact ⟨workerStep_proceeds hw hc hs hfits, fun _ a => workerResume_proceeds hw hc hs hfits a⟩

/-- What a step of a worker for a ticket makes of the gateway is the next turn of the ticket's
course. -/
theorem Sound.serves (h : l.Sound) {taking : Bool} (hf : l.Faces w k t taking) :
    ∃ c own, l.gateway.client? t.server = some c ∧ l.Owns k t c own ∧
      l.gateway.Serves w t taking c own
        ((l.course k).stage.next l.gateway.codec c.peer t (.step (l.gateway.findsFree w)))
        (l.gateway.workerStep w) ∧
      (taking = false → ∀ a, l.gateway.Serves w t taking c own
        ((l.course k).stage.next l.gateway.codec c.peer t (.answer a))
        (l.gateway.workerResume w a)) := by
  obtain ⟨c, own, hc, ho, ⟨s, hstep⟩, hanswer⟩ := h.proceeds hf
  refine ⟨c, own, hc, ho, hstep.serves, ?_⟩
  intro ht a
  obtain ⟨s, hs⟩ := hanswer ht a
  exact hs.serves

theorem Sound.work (h : l.Sound) (w : WorkerId) : (l.move (.work w)).Sound := by
  change (l.worked w _ _).Sound
  unfold worked
  cases hk : l.ticket? w with
  | some k =>
    obtain ⟨t, taking, hf⟩ := h.tidy.faces hk
    obtain ⟨c, own, hc, ho, hs, -⟩ := h.serves hf
    refine h.attend hf hc ho hs ?_
    intro conn he
    cases he
  | none =>
    rcases workerStep_idle h.tidy hk with he | ⟨hw, hl, he⟩
    · dsimp only
      rw [he]
      exact h.goes rfl rfl rfl rfl rfl [] rfl rfl
    · dsimp only
      rw [he]
      exact h.leave hw hl

theorem Sound.answer (h : l.Sound) {a : Answer} (ha : l.Allows (.answer w a)) :
    (l.move (.answer w a)).Sound := by
  change (l.worked w _ _).Sound
  unfold worked
  obtain ⟨⟨d, hd⟩, hfresh⟩ := ha
  cases hk : l.ticket? w with
  | some k =>
    obtain ⟨t, taking, hf⟩ := h.tidy.faces hk
    obtain ⟨c, own, hc, ho, -, hs⟩ := h.serves hf
    cases hf with
    | taking rest q hh hw hl =>
      exact (workerNeed_inLine hw hd).elim
    | running call hh hw ht =>
      refine h.attend (.running call hh hw ht) hc ho (hs rfl a) ?_
      intro conn he
      exact hfresh conn (Input.answer.inj he)
  | none =>
    dsimp only
    rw [workerResume_idle h.tidy hk]
    exact h.goes rfl rfl rfl rfl rfl [] rfl rfl

end Workers

section Runs
variable {l l' : Ledger} {mv : Move} {P : Ledger → Move → Prop} {codec : Codec} {config : Config}

theorem sound_start : (start codec config).Sound := by
  have hcl (S : ServerId) : (start codec config).gateway.client? S = none := rfl
  have hev (k : Option Ticket) : replies ((start codec config).eventsOf k) = [] ∧
      traffic ((start codec config).eventsOf k) = [] := by
    cases k <;> exact ⟨rfl, rfl⟩
  refine ⟨tidy_start, housed_start, ?_, ?_⟩
  · refine ⟨?_, ?_, ?_, ?_, ?_, ?_, ?_, ?_, ?_⟩
    · intro k t ht
      cases ht
    · intro w k t call c hh
      cases hh
    · intro k hk
      cases hk
    · intro k S sub id he
      cases he
    · intro k e e' he
      cases he
    · intro k k' S sub sub' id he
      cases he
    · intro S c id x hc
      cases hc
    · intro S c sub id hc
      cases hc
    · intro S c hc
      cases hc
  · refine ⟨?_, ?_, ?_, fun k _ => rfl, hev none, List.nodup_nil⟩
    · intro k t ht
      cases ht
    · intro k t ht
      cases ht
    · intro k o ho
      cases ho

/-- Every move keeps a ledger sound. -/
theorem Sound.move (h : l.Sound) (ha : l.Allows mv) : (l.move mv).Sound := by
  cases mv with
  | discover news => exact h.discover news
  | request caller r => exact h.order caller r
  | depart caller =>
    have hs := @Sound.goes l h (l.gateway.depart caller) rfl rfl rfl rfl rfl [] rfl rfl
    rwa [note_nil] at hs
  | shutDown =>
    have hs := @Sound.goes l h l.gateway.shutDown rfl rfl rfl rfl rfl [] rfl rfl
    rwa [note_nil] at hs
  | returnFrom i => exact h.returnFrom i
  | work w => exact h.work w
  | answer w a => exact h.answer ha

theorem Sound.run (h : l.Sound) (run : Run P l l') : l'.Sound := by
  induction run with
  | refl => exact h
  | snoc _ allowed _ ih => exact ih.move allowed

/-- Every ledger that can be reached is sound. -/
theorem sound_of_reachable (h : Reachable codec config l) : l.Sound := sound_start.run h

end Runs
end Ledger
end SpaceGateway
