import Mathlib.Data.List.Nodup
import SpaceGateway.Proofs.Ownership
/-!
Who holds a server: the registry while it is linked, and each task that is queued or runs. So a
server goes only when nothing runs on it any more, and then all its sessions are closed already.
-/
namespace SpaceGateway

/-- Whether a worker runs a task of a server. -/
def Worker.isFor (server : ServerId) : Worker → Bool
  | busy t _ => t.server == server
  | _ => false

/-- How many tasks of a server are queued or run. -/
def Pool.holding (p : Pool) (server : ServerId) : Nat :=
  p.queue.countP (·.server == server) + p.workers.countP (Worker.isFor server)

/-- Every server is held by the registry while it is linked, and once by each of its tasks. -/
structure Gateway.Housed (g : Gateway) : Prop where
  linked : g.registry.linked.Nodup
  known : ∀ S ∈ g.registry.linked, S < g.registry.servers.length
  queued : ∀ t ∈ g.pool.queue, t.server < g.registry.servers.length
  busy : ∀ (w : WorkerId) (t : Task) (call : Call), g.pool.workers[w]? = some (.busy t call) →
    t.server < g.registry.servers.length
  holders : ∀ (S : ServerId) (sv : Server), g.registry.servers[S]? = some sv →
    sv.holders = g.registry.linked.count S + g.pool.holding S

section Servers
variable {r : Registry} {S S' : ServerId} {sv : Server} {c : Client}

/-- Whether no session of a client is open. -/
def Client.IsQuiet (c : Client) : Prop := ∀ x ∈ c.sessions, x.session.isOpen = false

theorem traffic_abandon (h : c.IsQuiet) : traffic c.abandon.2 = [] := by
  have hl (l : List Shared) (hl : ∀ x ∈ l, x.session.isOpen = false) :
      traffic (l.flatMap (·.session.abandon.2)) = [] := by
    induction l with
    | nil => rfl
    | cons x l ih =>
      have hx := hl x (by simp)
      rw [List.flatMap_cons, traffic_append, ih (fun y hy => hl y (by simp [hy]))]
      simp [Session.abandon, hx]
  apply hl
  intro x hx
  exact h x (List.mem_mergeSort.1 hx)

theorem letGo_holders : sv.letGo.1.holders = sv.holders - 1 := by
  unfold Server.letGo
  split
  · simp [*]
  · split
    · simp [Server.destroy, *]
    · rfl

theorem letGo_client :
    (sv.letGo.1.client = sv.client ∧ sv.letGo.2 = []) ∨
      (sv.holders = 1 ∧ sv.letGo.1.client = sv.client.abandon.1 ∧
        traffic sv.letGo.2 = traffic sv.client.abandon.2) := by
  unfold Server.letGo
  split
  · exact .inl ⟨rfl, rfl⟩
  · split
    · rename_i h
      refine .inr ⟨h, rfl, ?_⟩
      simp only [Server.destroy]
      split <;> simp
    · exact .inl ⟨rfl, rfl⟩

theorem servers_withClient :
    (r.withClient S c).servers[S']? =
      r.servers[S']?.map fun x => if S = S' then { x with client := c } else x := by
  simp only [Registry.withClient, Registry.modify, List.getElem?_modify]
  split <;> simp

theorem length_withClient : (r.withClient S c).servers.length = r.servers.length := by
  simp [Registry.withClient, Registry.modify]

theorem registry_letGo (h : r.servers[S]? = some sv) :
    r.letGo S = ({ r with servers := r.servers.set S sv.letGo.1 }, sv.letGo.2) := by
  simp [Registry.letGo, h]

end Servers

section Pools
variable {p : Pool} {S : ServerId}

theorem Pool.holding_eq_zero (h : p.holding S = 0) {w : WorkerId} {t : Task} {call : Call}
    (hw : p.workers[w]? = some (.busy t call)) : t.server ≠ S := by
  intro he
  have hpos : 0 < p.workers.countP (Worker.isFor S) := by
    refine List.countP_pos_iff.2 ⟨_, List.mem_of_getElem? hw, ?_⟩
    simp [Worker.isFor, he]
  unfold Pool.holding at h
  omega

theorem Pool.holding_accept {t : Task} :
    (p.accept t).holding S = p.holding S + if t.server = S then 1 else 0 := by
  simp only [Pool.holding, Pool.accept, List.countP_append]
  by_cases he : t.server = S
  · simp [he]
    omega
  · simp [he]

/-- A step for a task takes it from the queue to a worker, and lets go of it when it is over. -/
theorem holding_attended {l : Ledger} {w : WorkerId} {k : Ticket} {t : Task} {taking : Bool}
    (hf : l.Faces w k t taking) (call? : Option Call) (S : ServerId) :
    (l.gateway.pool.attended taking w t call?).holding S +
        (if call? = none ∧ t.server = S then 1 else 0) = l.gateway.pool.holding S := by
  have hlt := hf.ready.lt
  unfold Pool.holding
  rw [queue_attended, workers_attended, List.countP_set hlt]
  cases hf with
  | taking rest q hh hw hl hr hq ht =>
    obtain ⟨_, hb⟩ := List.getElem?_eq_some_iff.1 hw
    rw [hb, hq]
    by_cases hs : t.server = S
    · cases call? <;> simp [workerAfter, Worker.isFor, hs] <;> omega
    · cases call? <;> simp [workerAfter, Worker.isFor, hs]
  | running call hh hw ht =>
    obtain ⟨_, hb⟩ := List.getElem?_eq_some_iff.1 hw
    rw [hb]
    by_cases hs : t.server = S
    · have hpos : 0 < l.gateway.pool.workers.countP (Worker.isFor S) := by
        refine List.countP_pos_iff.2 ⟨_, List.mem_of_getElem? hw, ?_⟩
        simp [Worker.isFor, hs]
      cases call? <;> simp [workerAfter, Worker.isFor, hs] <;> omega
    · cases call? <;> simp [workerAfter, Worker.isFor, hs]

end Pools

section Housed
variable {g g' : Gateway} {S : ServerId}

/-- Servers are housed as before when neither they nor their tasks change. -/
theorem Gateway.Housed.rebase (h : g.Housed) (hr : g'.registry = g.registry)
    (hq : g'.pool.queue = g.pool.queue) (hc : ∀ S, g'.pool.holding S = g.pool.holding S)
    (hb : ∀ (w : WorkerId) (t : Task) (call : Call),
      g'.pool.workers[w]? = some (.busy t call) → g.pool.workers[w]? = some (.busy t call)) :
    g'.Housed where
  linked := by
    rw [hr]
    exact h.linked
  known := by
    rw [hr]
    exact h.known
  queued := by
    rw [hr, hq]
    exact h.queued
  busy w t call hw := by
    rw [hr]
    exact h.busy w t call (hb w t call hw)
  holders S sv hs := by
    rw [hr] at hs
    rw [hr, hc]
    exact h.holders S sv hs

theorem housed_start {codec : Codec} {config : Config} :
    (Gateway.start codec config).1.Housed := by
  refine ⟨List.nodup_nil, ?_, ?_, ?_, ?_⟩
  · intro S hS
    cases hS
  · intro t ht
    cases ht
  · intro w t call hw
    have hw' : (List.replicate (max config.workers.toNat 1) Worker.inLine)[w]? =
        some (.busy t call) := hw
    rw [List.getElem?_replicate] at hw'
    split at hw' <;> cases hw'
  · intro S sv hs
    cases hs

theorem Gateway.Housed.length_not_linked (h : g.Housed) :
    g.registry.servers.length ∉ g.registry.linked :=
  fun hm => Nat.lt_irrefl _ (h.known _ hm)

theorem holding_length (h : g.Housed) : g.pool.holding g.registry.servers.length = 0 := by
  have hq : g.pool.queue.countP (·.server == g.registry.servers.length) = 0 := by
    rw [List.countP_eq_zero]
    intro t ht
    simpa using Nat.ne_of_lt (h.queued t ht)
  have hw : g.pool.workers.countP (Worker.isFor g.registry.servers.length) = 0 := by
    rw [List.countP_eq_zero]
    intro x hx
    obtain ⟨w, hw, rfl⟩ := List.getElem_of_mem hx
    cases hb : g.pool.workers[w] with
    | busy t call =>
      have := h.busy w t call (by rw [List.getElem?_eq_getElem hw, hb])
      simpa [Worker.isFor] using Nat.ne_of_lt this
    | inLine => simp [Worker.isFor]
    | stopped => simp [Worker.isFor]
  rw [Pool.holding, hq, hw]

/-- A server that is added is held by the registry alone. -/
theorem holders_append (h : g.Housed) {new sv : Server} (hn : new.holders = 1)
    (hs : (g.registry.servers ++ [new])[S]? = some sv) : sv.holders =
      (g.registry.linked ++ [g.registry.servers.length]).count S + g.pool.holding S := by
  rw [List.count_append]
  rcases Nat.lt_or_ge S g.registry.servers.length with hlt | hge
  · rw [List.getElem?_append_left hlt] at hs
    have hne : g.registry.servers.length ≠ S := Nat.ne_of_gt hlt
    simp [hne, h.holders S sv hs]
  · obtain ⟨hl, -⟩ := List.getElem?_eq_some_iff.1 hs
    rw [List.length_append, List.length_singleton] at hl
    obtain rfl : S = g.registry.servers.length := Nat.le_antisymm (Nat.le_of_lt_succ hl) hge
    rw [List.getElem?_concat_length] at hs
    cases hs
    have hlinked := List.count_eq_zero.2 h.length_not_linked
    simp [hn, hlinked, holding_length h]

theorem housed_add (h : g.Housed) (info : ServerInfo) :
    Gateway.Housed { g with registry := (g.registry.add info).2.1 } := by
  unfold Registry.add
  cases g.registry.find? info.identity with
  | some id => exact h
  | none =>
    refine ⟨?_, ?_, ?_, ?_, ?_⟩
    · refine List.nodup_append.2 ⟨h.linked, by simp, ?_⟩
      intro a ha b hb he
      rw [List.mem_singleton.1 hb] at he
      exact h.length_not_linked (he ▸ ha)
    · intro S hS
      rw [List.length_append, List.length_singleton]
      rcases List.mem_append.1 hS with hS | hS
      · exact Nat.lt_succ_of_lt (h.known S hS)
      · rw [List.mem_singleton.1 hS]
        exact Nat.lt_succ_self _
    · intro t ht
      rw [List.length_append]
      exact Nat.lt_succ_of_lt (h.queued t ht)
    · intro w t call hw
      rw [List.length_append]
      exact Nat.lt_succ_of_lt (h.busy w t call hw)
    · intro S sv hs
      exact holders_append h rfl hs

/-- A server that is held once too often is let go. -/
theorem housed_letGo (hl : g.registry.linked.Nodup)
    (hk : ∀ S ∈ g.registry.linked, S < g.registry.servers.length)
    (hq : ∀ t ∈ g.pool.queue, t.server < g.registry.servers.length)
    (hb : ∀ (w : WorkerId) (t : Task) (call : Call), g.pool.workers[w]? = some (.busy t call) →
      t.server < g.registry.servers.length)
    (hh : ∀ (S' : ServerId) (sv : Server), g.registry.servers[S']? = some sv →
      sv.holders = g.registry.linked.count S' + g.pool.holding S' + if S' = S then 1 else 0) :
    Gateway.Housed { g with registry := (g.registry.letGo S).1 } := by
  cases hs : g.registry.servers[S]? with
  | none =>
    have he : g.registry.letGo S = (g.registry, []) := by simp [Registry.letGo, hs]
    rw [he]
    refine ⟨hl, hk, hq, hb, ?_⟩
    intro S' sv hsv
    have hne : S' ≠ S := by
      intro he
      rw [he, hs] at hsv
      cases hsv
    have := hh S' sv hsv
    rwa [if_neg hne] at this
  | some sv =>
    rw [registry_letGo hs]
    refine ⟨hl, ?_, ?_, ?_, ?_⟩
    · simpa using hk
    · simpa using hq
    · simpa using hb
    · intro S' sv' hsv
      dsimp only at hsv ⊢
      by_cases he : S' = S
      · subst he
        obtain ⟨hlt, -⟩ := List.getElem?_eq_some_iff.1 hs
        rw [List.getElem?_set_self hlt] at hsv
        cases hsv
        have := hh S' sv hs
        rw [if_pos rfl] at this
        rw [letGo_holders, this, Nat.add_sub_cancel]
      · rw [List.getElem?_set_ne (Ne.symm he)] at hsv
        have := hh S' sv' hsv
        rwa [if_neg he] at this

theorem housed_remove (h : g.Housed) (identity : String) :
    Gateway.Housed { g with registry := (g.registry.remove identity).2.1 } := by
  unfold Registry.remove
  cases hf : g.registry.find? identity with
  | none => exact h
  | some id =>
    have hmem : id ∈ g.registry.linked := List.mem_of_find?_eq_some hf
    refine @housed_letGo
      { g with registry := { g.registry with linked := g.registry.linked.erase id } } id
      (h.linked.erase id) ?_ h.queued h.busy ?_
    · intro S hS
      exact h.known S (List.mem_of_mem_erase hS)
    · intro S sv hs
      have := h.holders S sv hs
      dsimp only
      by_cases he : S = id
      · subst he
        have hc : g.registry.linked.count S = 1 := List.count_eq_one_of_mem h.linked hmem
        rw [List.count_erase_self, hc, if_pos rfl]
        rw [hc] at this
        omega
      · rw [List.count_erase_of_ne he, if_neg he]
        exact this

theorem housed_discover (h : g.Housed) (news : Discovery) : (g.discover news).1.Housed := by
  cases news with
  | added info => exact housed_add h info
  | removed identity => exact housed_remove h identity
  | invalid identity => exact housed_remove h identity

theorem housed_submit (h : g.Housed) {server : ServerId} (hs : server ∈ g.registry.linked)
    (caller : CallerId) (r : CallerRequest) (hg : g'.registry = g.registry.hold server)
    (hp : g'.pool = g.pool.accept (.ofRequest server caller r)) : g'.Housed := by
  have hlen : g'.registry.servers.length = g.registry.servers.length := by
    simp [hg, Registry.hold, Registry.modify]
  have hlinked : g'.registry.linked = g.registry.linked := by rw [hg]; rfl
  refine ⟨?_, ?_, ?_, ?_, ?_⟩
  · rw [hlinked]
    exact h.linked
  · rw [hlinked, hlen]
    exact h.known
  · intro t ht
    rw [hlen]
    rw [hp] at ht
    rcases List.mem_append.1 ht with ht | ht
    · exact h.queued t ht
    · rw [List.mem_singleton.1 ht]
      exact h.known server hs
  · rw [hlen, hp]
    exact h.busy
  · intro S sv hsv
    have hhold : g'.pool.holding S = g.pool.holding S + if server = S then 1 else 0 :=
      hp ▸ Pool.holding_accept
    rw [hg] at hsv
    simp only [Registry.hold, Registry.modify, List.getElem?_modify, Option.map_eq_map,
      Option.map_eq_some_iff] at hsv
    obtain ⟨sv₀, hsv₀, rfl⟩ := hsv
    have := h.holders S sv₀ hsv₀
    rw [hlinked, hhold]
    by_cases he : server = S
    · simp only [he, if_true, Server.hold, this]
      omega
    · simp only [he, if_false, this]
      rfl

section Attended
variable {l : Ledger} {w : WorkerId} {k : Ticket} {t : Task} {taking : Bool} {call? : Option Call}
variable {c' : Client} {n : Turn} {next : Gateway × List Event}

theorem task_housed (h : l.gateway.Housed) (hf : l.Faces w k t taking) :
    t.server < l.gateway.registry.servers.length := by
  cases hf with
  | taking rest q hh hw hl hr hq => exact h.queued t (by simp [hq])
  | running call hh hw => exact h.busy w t call hw

theorem queued_attended (h : l.gateway.Housed) (ha : l.gateway.Attended w t taking c' call? n next) :
    ∀ t' ∈ next.1.pool.queue, t'.server < l.gateway.registry.servers.length := by
  intro t' ht'
  rw [ha.pool, queue_attended] at ht'
  split at ht'
  · exact h.queued t' (List.mem_of_mem_tail ht')
  · exact h.queued t' ht'

theorem busy_attended (h : l.gateway.Housed) (hf : l.Faces w k t taking)
    (ha : l.gateway.Attended w t taking c' call? n next) {w' : WorkerId} {t' : Task} {call : Call}
    (hw' : next.1.pool.workers[w']? = some (.busy t' call)) :
    t'.server < l.gateway.registry.servers.length := by
  rw [ha.pool, workers_attended] at hw'
  by_cases he : w' = w
  · subst he
    rw [List.getElem?_set_self hf.ready.lt] at hw'
    cases call? with
    | none => cases hw'
    | some call₁ =>
      cases hw'
      exact task_housed h hf
  · rw [List.getElem?_set_ne (Ne.symm he)] at hw'
    exact h.busy w' t' call hw'

/-- Before its task is released, a server has one holder more than is due to it. -/
theorem holders_attended (h : l.gateway.Housed) (hf : l.Faces w k t taking)
    (ha : l.gateway.Attended w t taking c' call? n next) {S : ServerId} {sv : Server}
    (hsv : (l.gateway.registry.withClient t.server c').servers[S]? = some sv) :
    sv.holders = l.gateway.registry.linked.count S + next.1.pool.holding S +
      if call? = none ∧ t.server = S then 1 else 0 := by
  rw [servers_withClient] at hsv
  obtain ⟨sv₀, hsv₀, rfl⟩ := Option.map_eq_some_iff.1 hsv
  have hh := h.holders S sv₀ hsv₀
  have hc := holding_attended hf call? S
  rw [← ha.pool] at hc
  have : (if t.server = S then { sv₀ with client := c' } else sv₀).holders = sv₀.holders := by
    split <;> rfl
  rw [this, hh]
  omega

theorem housed_attended (h : l.gateway.Housed) (hf : l.Faces w k t taking)
    (ha : l.gateway.Attended w t taking c' call? n next) : next.1.Housed := by
  have hlen : (l.gateway.registry.withClient t.server c').servers.length =
      l.gateway.registry.servers.length := length_withClient
  have hqueued := queued_attended h ha
  have hbusy (w' : WorkerId) (t' : Task) (call : Call)
      (hw' : next.1.pool.workers[w']? = some (.busy t' call)) := busy_attended h hf ha hw'
  have hholders (S : ServerId) (sv : Server)
      (hsv : (l.gateway.registry.withClient t.server c').servers[S]? = some sv) :=
    holders_attended h hf ha hsv
  obtain ⟨gate, ev⟩ := next
  have hr := ha.registry
  cases call? with
  | some call =>
    have hr' : gate.registry = l.gateway.registry.withClient t.server c' := hr
    refine ⟨?_, ?_, ?_, ?_, ?_⟩
    · rw [hr']
      exact h.linked
    · rw [hr', hlen]
      exact h.known
    · rw [hr', hlen]
      exact hqueued
    · rw [hr', hlen]
      exact hbusy
    · rw [hr']
      intro S sv hsv
      exact (hholders S sv hsv).trans (by simp; rfl)
  | none =>
    have hr' : gate.registry =
        ((l.gateway.registry.withClient t.server c').letGo t.server).1 := hr
    have hh (S : ServerId) (sv : Server)
        (hsv : (l.gateway.registry.withClient t.server c').servers[S]? = some sv) :
        sv.holders = l.gateway.registry.linked.count S + gate.pool.holding S +
          if S = t.server then 1 else 0 := (hholders S sv hsv).trans (by simp [eq_comm])
    have := @housed_letGo { gate with registry := l.gateway.registry.withClient t.server c' }
      t.server h.linked (by rw [hlen]; exact h.known) (by rw [hlen]; exact hqueued)
      (by rw [hlen]; exact hbusy) hh
    rw [← hr'] at this
    exact this

end Attended
end Housed
end SpaceGateway
