import SpaceGateway.Proofs.Holders
/-!
Ownership along a run: each step of the gateway leaves every session with the one task that it is
for, also when a server goes.
-/
namespace SpaceGateway

section Listings
variable {g : Gateway} {S : ServerId} {sub : String} {id : SessionId}

theorem mem_listings : (S, sub, id) ∈ g.listings ↔
    ∃ c, g.client? S = some c ∧ (sub, id) ∈ c.subscriptions := by
  simp only [Gateway.listings, List.mem_flatMap, List.mem_map, Prod.exists, Prod.mk.injEq,
    List.mem_zipIdx_iff_getElem?, Gateway.client?, Option.map_eq_some_iff]
  constructor
  · rintro ⟨s, i, hs, sub', id', hm, rfl, rfl, rfl⟩
    exact ⟨s.client, ⟨s, hs, rfl⟩, hm⟩
  · rintro ⟨c, ⟨s, hs, rfl⟩, hm⟩
    exact ⟨s, S, hs, sub, id, hm, rfl, rfl, rfl⟩

theorem abandon_session {c : Client} {x : Shared} (h : c.abandon.1.sessions[id]? = some x) :
    x.session.isOpen = false ∧ ∃ y, c.sessions[id]? = some y := by
  simp only [Client.abandon, List.getElem?_map, Option.map_eq_some_iff] at h
  obtain ⟨y, hy, rfl⟩ := h
  refine ⟨?_, y, hy⟩
  unfold Session.abandon
  split <;> simp_all

end Listings

/-- What may become of the clients of the servers without a task: nothing, or the client goes with
its server when nothing runs on it; and servers may be new. -/
inductive Gateway.Reclient (g g' : Gateway) (S : ServerId) : Prop
  | same (h : g'.client? S = g.client? S)
  | gone (c : Client) (before : g.client? S = some c) (after : g'.client? S = some c.abandon.1)
    (free : ∀ (w : WorkerId) (t : Task) (call : Call),
      g.pool.workers[w]? = some (.busy t call) → t.server ≠ S)
  | made (c : Client) (before : g.client? S = none) (after : g'.client? S = some c)
    (sessions : c.sessions = []) (subscriptions : c.subscriptions = [])

theorem Gateway.Reclient.peer {g g' : Gateway} {S : ServerId} {c : Client} (h : g.Reclient g' S)
    (hc : g.client? S = some c) : ∃ c', g'.client? S = some c' ∧ c'.peer = c.peer := by
  cases h with
  | same hs => exact ⟨c, hs.trans hc, rfl⟩
  | gone c₁ h₁ h₂ =>
    rw [hc] at h₁
    cases h₁
    exact ⟨_, h₂, rfl⟩
  | made c₁ h₁ =>
    rw [hc] at h₁
    cases h₁

section Reclient
variable {g g' : Gateway} {S : ServerId} {c' : Client} {sub : String} {id : SessionId} {x : Shared}

/-- Every session was there before. -/
theorem Gateway.Reclient.session (h : g.Reclient g' S) (hc : g'.client? S = some c')
    (hx : c'.sessions[id]? = some x) :
    ∃ c y, g.client? S = some c ∧ c.sessions[id]? = some y := by
  cases h with
  | same hs => exact ⟨c', x, hs.symm.trans hc, hx⟩
  | gone c h₁ h₂ =>
    obtain rfl := Option.some.inj (h₂.symm.trans hc)
    obtain ⟨-, y, hy⟩ := abandon_session hx
    exact ⟨c, y, h₁, hy⟩
  | made c h₁ h₂ hs =>
    obtain rfl := Option.some.inj (h₂.symm.trans hc)
    simp [hs] at hx

/-- Every entry was there before. -/
theorem Gateway.Reclient.listing (h : g.Reclient g' S) (hc : g'.client? S = some c')
    (hm : (sub, id) ∈ c'.subscriptions) :
    ∃ c, g.client? S = some c ∧ (sub, id) ∈ c.subscriptions := by
  cases h with
  | same hs => exact ⟨c', hs.symm.trans hc, hm⟩
  | gone c h₁ h₂ =>
    obtain rfl := Option.some.inj (h₂.symm.trans hc)
    cases hm
  | made c h₁ h₂ hs hn =>
    obtain rfl := Option.some.inj (h₂.symm.trans hc)
    rw [hn] at hm
    cases hm

theorem Gateway.Reclient.keys (h : g.Reclient g' S) (hk : ∀ c, g.client? S = some c → c.HasKeys)
    (hc : g'.client? S = some c') : c'.HasKeys := by
  cases h with
  | same hs => exact hk c' (hs.symm.trans hc)
  | gone c h₁ h₂ =>
    obtain rfl := Option.some.inj (h₂.symm.trans hc)
    exact List.nodup_nil
  | made c h₁ h₂ hs hn =>
    obtain rfl := Option.some.inj (h₂.symm.trans hc)
    rw [Client.HasKeys, hn]
    exact List.nodup_nil

/-- No session is lost, and none that is closed is opened again. -/
theorem Gateway.Reclient.stays {c : Client} (h : g.Reclient g' S) (hc : g.client? S = some c)
    (hx : c.sessions[id]? = some x) :
    ∃ c' x', g'.client? S = some c' ∧ c'.sessions[id]? = some x' ∧
      (x.session.isOpen = false → x'.session.isOpen = false) := by
  cases h with
  | same hs => exact ⟨c, x, hs.trans hc, hx, fun h => h⟩
  | gone c₁ h₁ h₂ =>
    obtain rfl := Option.some.inj (hc.symm.trans h₁)
    have hx' : c.abandon.1.sessions[id]? =
        some { x with session := x.session.abandon.1, holders := 0 } := by
      simp [Client.abandon, hx]
    exact ⟨_, _, h₂, hx', fun _ => (abandon_session hx').1⟩
  | made c₁ h₁ =>
    rw [hc] at h₁
    cases h₁

/-- A server on which something runs keeps its client. -/
theorem Gateway.Reclient.busy {c : Client} {w : WorkerId} {t : Task} {call : Call}
    (h : g.Reclient g' t.server) (hc : g.client? t.server = some c)
    (hw : g.pool.workers[w]? = some (.busy t call)) :
    g'.client? t.server = g.client? t.server := by
  cases h with
  | same hs => exact hs
  | gone c₁ h₁ h₂ hfree => exact (hfree w t call hw rfl).elim
  | made c₁ h₁ =>
    rw [hc] at h₁
    cases h₁

theorem listings_reclient (h : ∀ S, g.Reclient g' S) {e : Listing} (he : e ∈ g'.listings) :
    e ∈ g.listings := by
  obtain ⟨S, sub, id⟩ := e
  obtain ⟨c', hc', hm⟩ := mem_listings.1 he
  exact mem_listings.2 ((h S).listing hc' hm)

end Reclient

namespace Ledger
variable {l : Ledger}

/-- A course goes by the peer of its server, and by what has moved it on. -/
theorem Owned.course_congr (h : l.Owned) {l' : Ledger} {k : Ticket} (ho : l'.task? k = l.task? k)
    (hcodec : l'.gateway.codec = l.gateway.codec) (hi : l'.inputs k = l.inputs k)
    (hp : ∀ (S : ServerId) (c : Client), l.gateway.client? S = some c →
      ∃ c', l'.gateway.client? S = some c' ∧ c'.peer = c.peer) : l'.course k = l.course k := by
  cases ht : l.task? k with
  | none => simp [course, ho, ht]
  | some t =>
    obtain ⟨c, hS⟩ := h.known k t ht
    obtain ⟨c', hS', hp⟩ := hp _ c hS
    rw [course_eq ht hS, course_eq (ho.trans ht) hS', hp, hcodec, hi]

/-- Nothing is open in the client of a server on which nothing runs, and nothing is listed. -/
theorem Owned.quiet (h : l.Owned) (hT : l.Tidy) {S : ServerId} {c : Client}
    (hc : l.gateway.client? S = some c)
    (hfree : ∀ (w : WorkerId) (t : Task) (call : Call),
      l.gateway.pool.workers[w]? = some (.busy t call) → t.server ≠ S) :
    c.IsQuiet ∧ c.subscriptions = [] := by
  have hdone {k : Ticket} {sub : String} {id : SessionId} (he : (k, S, sub, id) ∈ l.entered) :
      k ∈ l.released := by
    by_contra hr
    obtain ⟨hk, t, c', x, ht, hS, -⟩ := h.entered k S sub id he
    obtain ⟨w, hw⟩ := (hT.held k).2 ⟨hk, hr⟩
    obtain ⟨t', call, hb, ht'⟩ := hT.hand w k hw
    rw [ht] at ht'
    cases ht'
    exact hfree w t call hb hS
  constructor
  · intro x hx
    obtain ⟨id, hid, rfl⟩ := List.getElem_of_mem hx
    obtain ⟨k, sub, he⟩ := h.creator S c id _ hc (List.getElem?_eq_getElem hid)
    obtain ⟨-, t, c', x, -, -, hc', hx', hclosed⟩ := h.entered k S sub id he
    rw [hc] at hc'
    cases hc'
    rw [List.getElem?_eq_getElem hid] at hx'
    cases hx'
    exact hclosed (hdone he)
  · cases hs : c.subscriptions with
    | nil => rfl
    | cons e rest =>
      obtain ⟨sub, id⟩ := e
      obtain ⟨k, he, hr⟩ := h.listed S c sub id hc (by simp [hs])
      exact (hr (hdone he)).elim

/-- Nothing is left in a server that no task holds. -/
theorem Owned.quiet_of_unheld (h : l.Owned) (hT : l.Tidy) {S : ServerId} {sv : Server}
    (hs : l.gateway.registry.servers[S]? = some sv) (h0 : l.gateway.pool.holding S = 0) :
    sv.client.IsQuiet ∧ sv.client.subscriptions = [] := by
  refine h.quiet hT (S := S) ?_ fun w t call hw => Pool.holding_eq_zero h0 hw
  simp [Gateway.client?, hs]

/-- Ownership does not change when the gateway moves without a task. -/
theorem Owned.rebase (h : l.Owned) {g : Gateway}
    (history : List (Option Ticket × Event)) (hcodec : g.codec = l.gateway.codec)
    (hb : ∀ (w : WorkerId) (t : Task) (call : Call), g.pool.workers[w]? = some (.busy t call) →
      l.gateway.pool.workers[w]? = some (.busy t call))
    (hc : ∀ S, l.gateway.Reclient g S) : Owned { l with gateway := g, history } := by
  have hcourse (k : Ticket) : course { l with gateway := g, history } k = l.course k :=
    h.course_congr rfl hcodec rfl fun S _ hS => (hc S).peer hS
  refine ⟨?_, ?_, ?_, ?_, h.one, h.unique, ?_, ?_, ?_⟩
  · intro k t ht
    obtain ⟨c, hS⟩ := h.known k t ht
    obtain ⟨c', hS', -⟩ := (hc t.server).peer hS
    exact ⟨c', hS'⟩
  · intro w k t call c' hh ht hw hc'
    rw [hcourse]
    have hw' := hb w t call hw
    obtain ⟨c, hcl⟩ := h.known k t ht
    exact h.running w k t call c' hh ht hw' (((hc t.server).busy hcl hw').symm.trans hc')
  · intro k hk
    rw [hcourse]
    exact h.ended k hk
  · intro k S sub id he
    obtain ⟨hk, t, c, x, ht, hS, hcl, hx, hclosed⟩ := h.entered k S sub id he
    obtain ⟨c', x', hcl', hx', hcloses⟩ := (hc S).stays hcl hx
    exact ⟨hk, t, c', x', ht, hS, hcl', hx', fun hr => hcloses (hclosed hr)⟩
  · intro S c' id x hc' hx
    obtain ⟨c, y, hcl, hy⟩ := (hc S).session hc' hx
    exact h.creator S c id y hcl hy
  · intro S c' sub id hc' hm
    obtain ⟨c, hcl, hm⟩ := (hc S).listing hc' hm
    exact h.listed S c sub id hcl hm
  · intro S c' hc'
    exact (hc S).keys (h.keys S) hc'

variable {w : WorkerId} {k : Ticket} {t : Task} {taking : Bool} {i : Input} {c c' : Client}
variable {call? : Option Call} {own own' : Option Holding} {new? : Option (String × SessionId)}
variable {n : Turn} {next : Gateway × List Event}

theorem client?_withClient {g : Gateway} (h : l.gateway.client? t.server = some c)
    (hr : g.registry = l.gateway.registry.withClient t.server c') (S : ServerId) :
    g.client? S = if S = t.server then some c' else l.gateway.client? S := by
  simp only [Gateway.client?, hr, servers_withClient]
  by_cases he : S = t.server
  · subst he
    obtain ⟨s, hs, -⟩ := Option.map_eq_some_iff.1 h
    simp [hs]
  · rw [if_neg he]
    simp [Ne.symm he]

/-- What a step for a ticket adds to the tables is what it enters. -/
theorem mem_new_listings (h : l.Owned) (hc : l.gateway.client? t.server = some c)
    (hf : c.Follows c' (own.map (·.id)) new?) {g : Gateway}
    (hg : ∀ S, g.client? S = if S = t.server then some c' else l.gateway.client? S) (e : Listing) :
    e ∈ g.listings.filter (· ∉ l.gateway.listings) ↔ ∃ x, new? = some x ∧ e = (t.server, x) := by
  obtain ⟨S, sub, id⟩ := e
  simp only [List.mem_filter, decide_eq_true_eq, mem_listings]
  constructor
  · rintro ⟨⟨c₁, hc₁, hm⟩, hno⟩
    rw [hg] at hc₁
    split at hc₁
    · rename_i hS
      cases hc₁
      subst hS
      rcases hf.entries sub id hm with hm | hn
      · exact (hno ⟨c, hc, hm⟩).elim
      · exact ⟨_, hn, rfl⟩
    · exact (hno ⟨c₁, hc₁, hm⟩).elim
  · rintro ⟨x, hn, he⟩
    simp only [Prod.mk.injEq] at he
    obtain ⟨rfl, rfl⟩ := he
    obtain ⟨hnone, hm, -⟩ := hf.new sub id hn
    refine ⟨⟨c', by rw [hg, if_pos rfl], hm⟩, ?_⟩
    rintro ⟨c₁, hc₁, hm₁⟩
    rw [hc] at hc₁
    cases hc₁
    rw [List.getElem?_eq_getElem (h.ids hc hm₁)] at hnone
    cases hnone

/-- Nothing runs on a server whose last task is over when it is not linked. -/
theorem released_free (hf : l.Faces w k t taking) (hH : l.gateway.Housed)
    (hp : next.1.pool = l.gateway.pool.attended taking w t none) {s : Server}
    (hs : l.gateway.registry.servers[t.server]? = some s) (hone : s.holders = 1)
    {w' : WorkerId} {t' : Task} {call : Call}
    (hw : next.1.pool.workers[w']? = some (.busy t' call)) : t'.server ≠ t.server := by
  have hh := hH.holders _ _ hs
  have hold := holding_attended hf none t.server
  rw [← hp] at hold
  simp only [true_and, if_true] at hold
  have hzero : next.1.pool.holding t.server = 0 := by omega
  exact Pool.holding_eq_zero hzero hw

/-- A task that is over lets its server go, and nothing is open there if the server goes too. -/
theorem released_reclient (hf : l.Faces w k t taking) (hH : l.gateway.Housed)
    (hc : l.gateway.client? t.server = some c)
    (ha : l.gateway.Attended w t taking c' none n next) {g : Gateway}
    (hpool : g.pool = next.1.pool)
    (hr : g.registry = l.gateway.registry.withClient t.server c') (S : ServerId) :
    g.Reclient next.1 S := by
  obtain ⟨s, hs, hsc⟩ := Option.map_eq_some_iff.1 hc
  have hs₁ : (l.gateway.registry.withClient t.server c').servers[t.server]? =
      some { s with client := c' } := by
    simp [servers_withClient, hs]
  have hreg := ha.registry
  simp only [Registry.attended] at hreg
  rw [registry_letGo hs₁] at hreg
  obtain ⟨hlt, -⟩ := List.getElem?_eq_some_iff.1 hs₁
  by_cases he : S = t.server
  · subst he
    have hnext : next.1.client? t.server =
        some ({ s with client := c' } : Server).letGo.1.client := by
      simp only [Gateway.client?, hreg]
      rw [List.getElem?_set_self hlt]
      rfl
    have h₁ : g.client? t.server = some c' := by
      simp only [Gateway.client?, hr]
      rw [hs₁]
      rfl
    rcases @letGo_client { s with client := c' } with ⟨hcl, -⟩ | ⟨hone, hcl, -⟩
    · rw [hcl] at hnext
      exact .same (hnext.trans h₁.symm)
    · rw [hcl] at hnext
      refine .gone c' h₁ hnext ?_
      intro w' t' call hw'
      rw [hpool] at hw'
      exact released_free hf hH ha.pool hs hone hw'
  · refine .same ?_
    simp only [Gateway.client?, hreg, hr]
    rw [List.getElem?_set_ne (Ne.symm he)]

theorem Faces.attended (hf : l.Faces w k t taking) (h : l.Owned)
    (hc : l.gateway.client? t.server = some c) (hfol : c.Follows c' (own.map (·.id)) new?)
    (hp : next.1.pool = l.gateway.pool.attended taking w t call?)
    (hcodec : next.1.codec = l.gateway.codec)
    (hr : next.1.registry = l.gateway.registry.withClient t.server c') :
    l.Attended (l.attend w k i next) w k t taking i c' call? new? := by
  have hclient : ∀ S, next.1.client? S =
      if S = t.server then some c' else l.gateway.client? S := client?_withClient hc hr
  have hnew := mem_new_listings h hc hfol hclient
  rw [hf.attend_eq hp]
  refine ⟨rfl, hcodec, ?_, hclient, rfl, rfl, rfl, rfl, ?_⟩
  · dsimp only [note]
    rw [hp, workers_attended]
  · intro k' e
    dsimp only [note]
    rw [List.mem_append, List.mem_map]
    constructor
    · rintro (h | ⟨e', he', heq⟩)
      · exact .inl h
      · simp only [Prod.mk.injEq] at heq
        obtain ⟨rfl, rfl⟩ := heq
        exact .inr ⟨rfl, (hnew e').1 he'⟩
    · rintro (h | ⟨rfl, he⟩)
      · exact .inl h
      · exact .inr ⟨e, (hnew e).2 he, rfl⟩

/-- Nothing is entered by a step that ends a task. -/
theorem new_of_over (hfol : c.Follows c' (own.map (·.id)) new?)
    (hset : Settles c' w t own' none n.stage)
    (hsame : ∀ h, own = some h → new? = none ∧ ∃ listed, own' = some { h with isListed := listed })
    (hfresh : own = none → own' = new?.map fun e => ⟨e.2, e.1, true⟩) : new? = none := by
  cases hn : new? with
  | none => rfl
  | some e =>
    obtain ⟨sub, id⟩ := e
    obtain ⟨-, -, x, hx⟩ := hfol.new sub id hn
    cases ho : own with
    | some h => rw [hn] at hsame; cases (hsame h ho).1
    | none =>
      have ho' := hfresh ho
      rw [hn] at ho'
      cases (hset.closed _ x ho' rfl hx).2

/-- A step for a ticket, as if its server stayed in any case. -/
theorem Owned.attend_staying (h : l.Owned) (hT : l.Tidy) (hf : l.Faces w k t taking)
    (hc : l.gateway.client? t.server = some c) (ho : l.Owns k t c own)
    (ha : l.gateway.Attended w t taking c' call? n next)
    (hadv : Advances c w t own c' call? n.stage)
    (hn : n = (l.course k).stage.next l.gateway.codec c.peer t i) :
    (l.attend w k i ({ next.1 with
      registry := l.gateway.registry.withClient t.server c' }, next.2)).Owned := by
  obtain ⟨new?, own', hfol, hset, hsame, hfresh⟩ :=
    hadv.follows (h.keys _ _ hc) (h.holding hc ho) fun _ _ hm => h.ids hc hm
  have ha₁ := @Faces.attended l w k t taking i c c' call? own new?
    ({ next.1 with registry := l.gateway.registry.withClient t.server c' }, next.2)
    hf h hc hfol ha.pool ha.codec rfl
  rw [hn] at hset
  exact Served.owned ⟨h, hT, hf, hc, ho, ha₁, hfol, hset, hsame, hfresh⟩

theorem Owned.attend (h : l.Owned) (hT : l.Tidy) (hH : l.gateway.Housed)
    (hf : l.Faces w k t taking) (hc : l.gateway.client? t.server = some c)
    (ho : l.Owns k t c own) (ha : l.gateway.Attended w t taking c' call? n next)
    (hadv : Advances c w t own c' call? n.stage)
    (hn : n = (l.course k).stage.next l.gateway.codec c.peer t i) :
    (l.attend w k i next).Owned := by
  have h₁ := h.attend_staying hT hf hc ho ha hadv hn
  cases call? with
  | some call =>
    have hr : next.1.registry = l.gateway.registry.withClient t.server c' := ha.registry
    rw [← hr] at h₁
    exact h₁
  | none =>
    obtain ⟨new?, own', hfol, hset, hsame, hfresh⟩ :=
      hadv.follows (h.keys _ _ hc) (h.holding hc ho) fun _ _ hm => h.ids hc hm
    obtain rfl := new_of_over hfol hset hsame hfresh
    have hclient := @client?_withClient l t c c'
      { next.1 with registry := l.gateway.registry.withClient t.server c' } hc rfl
    have hnew := mem_new_listings h hc hfol hclient
    have hre (S : ServerId) := @released_reclient l w k t taking c c' n next hf hH hc ha
      { next.1 with registry := l.gateway.registry.withClient t.server c' } rfl rfl S
    have hnil₁ : ({ next.1 with registry := l.gateway.registry.withClient t.server c' } :
        Gateway).listings.filter (· ∉ l.gateway.listings) = [] := by
      refine List.eq_nil_iff_forall_not_mem.2 fun e he => ?_
      obtain ⟨x, hx, -⟩ := (hnew e).1 he
      cases hx
    have hnil : next.1.listings.filter (· ∉ l.gateway.listings) = [] := by
      refine List.eq_nil_iff_forall_not_mem.2 fun e he => ?_
      obtain ⟨hm, hno⟩ := List.mem_filter.1 he
      exact List.eq_nil_iff_forall_not_mem.1 hnil₁ e
        (List.mem_filter.2 ⟨listings_reclient hre hm, hno⟩)
    have he₁ := @Faces.attend_eq l w k t taking none
      ({ next.1 with registry := l.gateway.registry.withClient t.server c' }, next.2) hf ha.pool i
    dsimp only at he₁
    rw [hnil₁] at he₁
    rw [he₁] at h₁
    rw [hf.attend_eq ha.pool, hnil]
    exact h₁.rebase _ rfl (fun _ _ _ hw => hw) hre

/-- Nothing is left in a server that goes after a step for a ticket. -/
theorem Owned.attend_quiet (h : l.Owned) (hT : l.Tidy) (hH : l.gateway.Housed)
    (hf : l.Faces w k t taking) (hc : l.gateway.client? t.server = some c)
    (ho : l.Owns k t c own) (ha : l.gateway.Attended w t taking c' none n next)
    (hadv : Advances c w t own c' none n.stage)
    (hn : n = (l.course k).stage.next l.gateway.codec c.peer t i) {s : Server}
    (hs : l.gateway.registry.servers[t.server]? = some s) (hone : s.holders = 1) :
    c'.IsQuiet ∧ c'.subscriptions = [] := by
  have h₁ := h.attend_staying hT hf hc ho ha hadv hn
  have hT₁ : (l.attend w k i ({ next.1 with
      registry := l.gateway.registry.withClient t.server c' }, next.2)).Tidy := by
    apply hT.attend hf
    exact ha.pool
  refine h₁.quiet hT₁ (S := t.server) (c := c') ?_ ?_
  · exact (client?_withClient hc rfl t.server).trans (if_pos rfl)
  · intro w' t' call hw
    exact released_free hf hH ha.pool hs hone hw

/-- A server that goes after a step for a ticket has nothing to close. -/
theorem Owned.attend_quietly (h : l.Owned) (hT : l.Tidy) (hH : l.gateway.Housed)
    (hf : l.Faces w k t taking) (hc : l.gateway.client? t.server = some c)
    (ho : l.Owns k t c own) (ha : l.gateway.Attended w t taking c' call? n next)
    (hadv : Advances c w t own c' call? n.stage)
    (hn : n = (l.course k).stage.next l.gateway.codec c.peer t i) :
    traffic (l.gateway.registry.attended t c' call?).2 = [] := by
  cases call? with
  | some call => rfl
  | none =>
    obtain ⟨s, hs, -⟩ := Option.map_eq_some_iff.1 hc
    have hs₁ : (l.gateway.registry.withClient t.server c').servers[t.server]? =
        some { s with client := c' } := by
      simp [servers_withClient, hs]
    simp only [Registry.attended, registry_letGo hs₁]
    rcases @letGo_client { s with client := c' } with ⟨-, hev⟩ | ⟨hone, -, hev⟩
    · rw [hev]
      rfl
    · rw [hev]
      exact traffic_abandon (h.attend_quiet hT hH hf hc ho ha hadv hn hs hone).1

end Ledger
end SpaceGateway
