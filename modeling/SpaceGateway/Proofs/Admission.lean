import Mathlib.Data.List.Pairwise
import SpaceGateway.Proofs.Directory
import SpaceGateway.Proofs.Drain
import SpaceGateway.Proofs.Lifetimes
/-!
How requests are taken in. A request becomes one task for the server that it names, or it is rejected,
and then its failure reply is all that comes of it.
-/
namespace SpaceGateway

namespace Registry
variable {registry : Registry} {S S' : ServerId} {identity : String}

/-- Whether a server is linked and a name is its identity, in either ASCII case. -/
def Links (registry : Registry) (S : ServerId) (identity : String) : Prop :=
  S ∈ registry.linked ∧
    ∃ sv, registry.servers[S]? = some sv ∧ Identity.same sv.info.identity identity

theorem links_iff : registry.Links S identity ↔
    S ∈ registry.linked ∧ registry.names S identity = true := by
  simp [Links, names, ServerInfo.is, Option.any_eq_true]

instance symmApart : Std.Symm registry.Apart where
  symm a b h s t hs ht := by
    rw [ServerInfo.is, Identity.same, Bool.beq_comm]
    exact h t s ht hs

/-- One name does not find two servers that are apart. -/
theorem Links.unique (h : registry.linked.Pairwise registry.Apart) (hS : registry.Links S identity)
    (hS' : registry.Links S' identity) : S = S' := by
  obtain ⟨hm, s, hs, hname⟩ := hS
  obtain ⟨hm', s', hs', hname'⟩ := hS'
  by_contra hne
  have hapart : Identity.same s'.info.identity s.info.identity = false :=
    h.forall hm hm' hne s s' hs hs'
  rw [Identity.same_trans hname' (Identity.same_symm hname)] at hapart
  cases hapart

theorem find?_none_iff : registry.find? identity = none ↔ ∀ S, ¬ registry.Links S identity := by
  simp only [find?, List.find?_eq_none, links_iff, not_and]

theorem links_of_find? (h : registry.find? identity = some S) : registry.Links S identity := by
  have hnames := List.find?_some h
  exact links_iff.2 ⟨List.mem_of_find?_eq_some h, hnames⟩

theorem Links.find? (h : registry.linked.Pairwise registry.Apart) (hS : registry.Links S identity) :
    registry.find? identity = some S := by
  cases hf : registry.find? identity with
  | none => exact (find?_none_iff.1 hf S hS).elim
  | some S' => rw [hS.unique h (links_of_find? hf)]

end Registry

namespace Gateway
variable {g : Gateway} {caller : CallerId} {r : CallerRequest} {S : ServerId}

/-- A request is rejected with an error. Its caller gets the failure reply, and apart from that nothing
comes of it: the queue, the servers, their tables of subscriptions and all references to servers and
callers are as they were, and no connection is touched. -/
structure Rejects (g : Gateway) (caller : CallerId) (r : CallerRequest) (e : Error) : Prop where
  result : (g.request caller r).1 = .error e
  still : (g.request caller r).2.1 = g
  replies : SpaceGateway.replies (g.request caller r).2.2 =
    (Reply.failure? r.access r.operation).toList.map (caller, ·)
  silent : traffic (g.request caller r).2.2 = []

/-- A request becomes one task for a server, and nothing is sent yet. -/
structure Queues (g : Gateway) (caller : CallerId) (r : CallerRequest) (S : ServerId) : Prop where
  result : (g.request caller r).1 = .ok ()
  /-- The task carries what the request says. -/
  queue : (g.request caller r).2.1.pool.queue = g.pool.queue ++
    [{ server := S, caller, node := r.node, access := r.access, transactionId := r.transactionId
       operation := r.operation }]
  /-- It holds its server and the handle of its caller. -/
  held : (g.request caller r).2.1.registry.holders S = g.registry.holders S + 1
  handled : (g.request caller r).2.1.pool.handles caller = g.pool.handles caller + 1
  /-- Nothing else changes. -/
  rest : (g.request caller r).2.1 =
    { g with
      registry := g.registry.hold S
      pool := { g.pool with queue := (g.request caller r).2.1.pool.queue } }
  unanswered : SpaceGateway.replies (g.request caller r).2.2 = []
  silent : traffic (g.request caller r).2.2 = []

theorem rejects_of_error {e : Error} (h : (g.request caller r).1 = .error e) :
    g.Rejects caller r e := by
  rcases Ledger.request_cases g caller r with ⟨S, -, hok, -⟩ | ⟨-, hstill, hreplies, htraffic⟩
  · rw [hok] at h
    cases h
  · exact ⟨h, hstill, hreplies, htraffic⟩

/-- Whether the name finds a server is looked at before the pool is. -/
theorem rejects_unknown (h : g.registry.find? r.server = none) :
    g.Rejects caller r (.serverNotFound r.server) := by
  apply rejects_of_error
  simp only [request, Registry.find, h]

theorem rejects_closed (h : g.registry.find? r.server = some S) (hc : g.pool.accepting = false) :
    g.Rejects caller r .closed := by
  apply rejects_of_error
  simp only [request, Registry.find, h, submit_closed hc]

theorem queues_known (h : g.registry.find? r.server = some S) (ha : g.pool.accepting = true) :
    g.Queues caller r S := by
  have hnext : (g.request caller r).2.1 =
      { g with
        registry := g.registry.hold S
        pool := g.pool.accept (.ofRequest S caller r) } := by
    simp [request, Registry.find, h, submit, ha]
  rcases Ledger.request_cases g caller r with
    ⟨S', -, hresult, -, -, -, hreplies, htraffic⟩ | ⟨⟨e, he⟩, -⟩
  · obtain ⟨-, sv, hsv, -⟩ := Registry.links_of_find? h
    obtain ⟨hS, -⟩ := List.getElem?_eq_some_iff.1 hsv
    refine ⟨hresult, ?_, ?_, ?_, ?_, hreplies, htraffic⟩
    · rw [hnext]
      rfl
    · rw [hnext]
      exact Ledger.holders_hold hS
    · rw [hnext]
      exact Ledger.handles_accept g.pool _
    · rw [hnext]
      rfl
  · simp [request, Registry.find, h, submit, ha] at he

theorem rejected_iff : (∃ e, (g.request caller r).1 = .error e) ↔
    g.registry.find? r.server = none ∨ g.pool.accepting = false := by
  cases hf : g.registry.find? r.server with
  | none => exact iff_of_true ⟨_, (rejects_unknown hf).result⟩ (.inl rfl)
  | some S =>
    cases ha : g.pool.accepting with
    | false => exact iff_of_true ⟨_, (rejects_closed hf ha).result⟩ (.inr rfl)
    | true => simp [(@queues_known g caller r S hf ha).result]

theorem rejects_or_queues (g : Gateway) (caller : CallerId) (r : CallerRequest) :
    (∃ e, g.Rejects caller r e) ∨ ∃ S, g.pool.accepting = true ∧ g.Queues caller r S := by
  cases hf : g.registry.find? r.server with
  | none => exact .inl ⟨_, rejects_unknown hf⟩
  | some S =>
    cases ha : g.pool.accepting with
    | false => exact .inl ⟨_, rejects_closed hf ha⟩
    | true => exact .inr ⟨S, rfl, queues_known hf ha⟩

/-- How a gateway decides on a request. -/
structure Decides (g : Gateway) (caller : CallerId) (r : CallerRequest) : Prop where
  /-- It is rejected if its name is nobody's identity, whether or not the pool is closed. -/
  unknown : (∀ S, ¬ g.registry.Links S r.server) → g.Rejects caller r (.serverNotFound r.server)
  /-- If the pool is closed then the reference to the server, which the task took, is given back. -/
  closed : ∀ S, g.registry.Links S r.server → g.pool.accepting = false →
    g.Rejects caller r .closed ∧ (g.registry.hold S).letGo S = (g.registry, [])
  queued : ∀ S, g.registry.Links S r.server → g.pool.accepting = true → g.Queues caller r S
  rejected_iff : (∃ e, (g.request caller r).1 = .error e) ↔
    (∀ S, ¬ g.registry.Links S r.server) ∨ g.pool.accepting = false
  /-- The pool is closed by shutting down, and by nothing else. -/
  closed_iff : g.pool.accepting = false ↔ g.shutdowns ≠ []
  /-- While it is open, all workers are there to take from the queue. -/
  manned : g.pool.accepting = true → ∀ w : WorkerId, g.pool.workers[w]? ≠ some .stopped

end Gateway

section Moves
variable {g : Gateway} {w : WorkerId}

theorem retains_attended (registry : Registry) (t : Task) (c : Client) (call? : Option Call) :
    registry.Retains (registry.attended t c call?).1 := by
  have hused : registry.Retains (registry.withClient t.server c) :=
    Registry.retains_modify fun _ => rfl
  cases call? with
  | some call => exact hused
  | none =>
    have hleft := Registry.retains_letGo (registry.withClient t.server c) t.server
    exact ⟨hleft.linked.trans hused.linked, hleft.infos.trans hused.infos⟩

theorem begin_accepting {t : Task} : (g.begin w t).1.pool.accepting = g.pool.accepting := by
  obtain ⟨call?, hp⟩ := @begin_pool g w t
  rw [hp, accepting_attended]

theorem workerStep_accepting : (g.workerStep w).1.pool.accepting = g.pool.accepting := by
  unfold Gateway.workerStep
  split
  · split
    · split
      · rfl
      · rfl
      · exact begin_accepting
    · rfl
  · split
    · rfl
    · rw [proceed_pool, accepting_attended]
  · rfl

theorem workerResume_accepting (a : Answer) :
    (g.workerResume w a).1.pool.accepting = g.pool.accepting := by
  unfold Gateway.workerResume
  split
  · split
    · rfl
    · rw [proceed_pool, accepting_attended]
  · rfl

end Moves

namespace Ledger
variable {codec : Codec} {config : Config} {l : Ledger} {mv : Move} {w : WorkerId}

theorem Sound.retains_work (h : l.Sound) (hmv : mv.worker? = some w) (ha : l.Allows mv) :
    l.gateway.registry.Retains (l.move mv).gateway.registry := by
  rcases h.worked_cases hmv ha with ⟨k, t, hs⟩ | ⟨p, ev, he, -⟩
  · obtain ⟨w', i, taking, c, own, next, -, -, -, -, -, he, c', call?, hatt, -⟩ := hs
    rw [he]
    change l.gateway.registry.Retains next.1.registry
    rw [hatt.registry]
    exact retains_attended _ t c' call?
  · rw [he]
    exact ⟨rfl, rfl⟩

/-- What is known of the servers and the pool whenever a request is made: the linked servers are those
of a directory, the pool is open until it is shut down, and no worker has left before that. -/
structure Receptive (l : Ledger) : Prop where
  shows : ∃ d, l.gateway.registry.Shows d
  accepting : l.gateway.pool.accepting = l.gateway.shutdowns.isEmpty
  manned : ∀ w : WorkerId, l.gateway.pool.workers[w]? = some .stopped →
    l.gateway.pool.accepting = false

theorem receptive_start : (start codec config).Receptive := by
  refine ⟨⟨.empty, Registry.shows_empty _⟩, rfl, ?_⟩
  intro w hw
  change (List.replicate _ Worker.inLine)[w]? = _ at hw
  rw [List.getElem?_replicate] at hw
  split at hw <;> cases hw

/-- A step that leaves the servers linked and the pool as open as it was. -/
theorem Receptive.kept {l' : Ledger} (h : l.Receptive)
    (hr : l.gateway.registry.Retains l'.gateway.registry)
    (hp : l.gateway.pool.Steps l'.gateway.pool)
    (ha : l'.gateway.pool.accepting = l.gateway.pool.accepting)
    (hs : l'.gateway.shutdowns.isEmpty = l.gateway.shutdowns.isEmpty) : l'.Receptive := by
  obtain ⟨d, hd⟩ := h.shows
  refine ⟨⟨d, hd.retained hr⟩, ?_, ?_⟩
  · rw [ha, hs, h.accepting]
  · intro w hw
    rw [ha]
    rcases hp.stopped hw with hw | hc
    · exact h.manned w hw
    · exact hc.1

theorem Receptive.worked (h : l.Receptive) (hS : l.Sound) (hmv : mv.worker? = some w)
    (ha : l.Allows mv) : (l.move mv).Receptive := by
  have hr := hS.retains_work hmv ha
  have hgateway (i : Input) (next : Gateway × List Event) : (l.worked w i next).gateway = next.1 := by
    unfold Ledger.worked
    split <;> rfl
  cases mv with
  | work w' =>
    cases hmv
    refine h.kept hr (hS.tidy.work w).2 ?_ ?_ <;> dsimp only [move] <;> rw [hgateway]
    · exact workerStep_accepting
    · rw [workerStep_shutdowns]
  | answer w' a =>
    cases hmv
    refine h.kept hr (hS.tidy.answer ha.1).2 ?_ ?_ <;> dsimp only [move] <;> rw [hgateway]
    · exact workerResume_accepting a
    · rw [workerResume_shutdowns]
  | _ => cases hmv

theorem Receptive.order (h : l.Receptive) (caller : CallerId) (r : CallerRequest) :
    (l.order caller r).Receptive := by
  rcases l.gateway.rejects_or_queues caller r with ⟨e, hrejects⟩ | ⟨S, ha, hqueues⟩
  · have hg : (l.order caller r).gateway = l.gateway := hrejects.still
    exact h.kept (hg ▸ ⟨rfl, rfl⟩) (hg ▸ .same) (hg ▸ rfl) (hg ▸ rfl)
  · have hg : (l.order caller r).gateway =
        { l.gateway with
          registry := l.gateway.registry.hold S
          pool := l.gateway.pool.accept (.ofRequest S caller r) } := by
      refine Eq.trans hqueues.rest ?_
      rw [hqueues.queue]
      rfl
    refine h.kept ?_ ?_ ?_ ?_ <;> rw [hg]
    · exact Registry.retains_modify fun _ => rfl
    · exact .accepts _ ha
    · rfl

theorem Receptive.move (h : l.Receptive) (hS : l.Sound) (ha : l.Allows mv) :
    (l.move mv).Receptive := by
  cases mv with
  | work w => exact h.worked hS rfl ha
  | answer w a => exact h.worked hS rfl ha
  | request caller r => exact h.order caller r
  | depart caller => exact h.kept ⟨rfl, rfl⟩ .same rfl rfl
  | discover news =>
    obtain ⟨d, hd⟩ := h.shows
    exact ⟨⟨_, (hd.answer (.discover news)).2⟩, h.accepting, h.manned⟩
  | shutDown =>
    refine ⟨h.shows, ?_, fun _ _ => rfl⟩
    change false = (l.gateway.shutdowns ++ [_]).isEmpty
    simp
  | returnFrom i =>
    change (l.note none (l.gateway.returnFrom i)).Receptive
    unfold Gateway.returnFrom
    split
    · refine h.kept ⟨rfl, rfl⟩ .same rfl ?_
      change (l.gateway.shutdowns.modify i _).isEmpty = _
      cases l.gateway.shutdowns <;> cases i <;> rfl
    · exact h.kept ⟨rfl, rfl⟩ .same rfl rfl

theorem receptive_of_reachable (h : Reachable codec config l) : l.Receptive := by
  induction h with
  | refl => exact receptive_start
  | snoc run allowed _ ih => exact ih.move (sound_start.run run) allowed

/-- In every state that a gateway can come to, it decides on a request at once: the request is rejected
and nothing changes, or it is in the queue. -/
theorem decides_at_once (h : Reachable codec config l) (caller : CallerId) (r : CallerRequest) :
    l.gateway.Decides caller r := by
  have hsound := sound_of_reachable h
  have hreceptive := receptive_of_reachable h
  obtain ⟨d, hd⟩ := hreceptive.shows
  have hapart := Registry.apart_entries hd.entries d.servers.distinct
  have hfind {S : ServerId} (hS : l.gateway.registry.Links S r.server) :
      l.gateway.registry.find? r.server = some S := hS.find? hapart
  refine ⟨fun hnone => Gateway.rejects_unknown (Registry.find?_none_iff.2 hnone), ?_,
    fun S hS ha => Gateway.queues_known (hfind hS) ha, ?_, ?_, ?_⟩
  · intro S hS hc
    refine ⟨Gateway.rejects_closed (hfind hS) hc, ?_⟩
    obtain ⟨hlinked, sv, hsv, -⟩ := hS
    exact letGo_hold hsv (hsound.alive_of_linked hlinked hsv)
  · rw [Gateway.rejected_iff, Registry.find?_none_iff]
  · rw [hreceptive.accepting, List.isEmpty_eq_false_iff]
  · intro ha w hw
    rw [hreceptive.manned w hw] at ha
    cases ha

/-- A server is found, and the gateway is shut down. -/
def shutWithServer : List Move := [.discover (.added ⟨"space", "", ⟨"host", 1⟩⟩), .shutDown]

theorem decides_at_once_when_shut :
    ((start Framed.codec {}).moveAll shutWithServer).gateway.Decides "caller"
      ⟨"Space", "node", "mark", 1, .insert .rdfXml "triples"⟩ := by
  refine @decides_at_once Framed.codec {} _ (run_moveAll .refl ?_) _ _
  exact ⟨⟨trivial, trivial⟩, ⟨trivial, trivial⟩, trivial⟩

example :
    let g := ((start Framed.codec {}).moveAll shutWithServer).gateway
    let (result, _, ev) := g.request "caller" ⟨"Space", "node", "mark", 1, .insert .rdfXml "triples"⟩
    result = .error .closed ∧
      replies ev = [("caller", .inserted "mark" .failed Reply.connectionFailure)] := by
  exact ⟨rfl, rfl⟩

end Ledger
end SpaceGateway
