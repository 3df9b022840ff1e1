import SpaceGateway.Proofs.Obligation
import SpaceGateway.Proofs.Success
/-!
How callers are told of failure. Wherever a request fails, its caller gets the failure reply of the
operation and nothing else. Only a server that refuses to change what it holds is named as the one who did.
-/
namespace SpaceGateway

/-- The reply with another payload, where it answers a modification. -/
def Reply.carrying (payload : String) : Reply → Reply
  | inserted access outcome _ => inserted access outcome payload
  | updated access outcome _ => updated access outcome payload
  | removed access outcome _ => removed access outcome payload
  | r => r

/-- Whether a reply says that the server has refused a modification. -/
def Reply.IsRefusal : Reply → Prop
  | inserted _ outcome payload | updated _ outcome payload | removed _ outcome payload =>
    outcome = .failed ∧ payload = serverRefusal
  | _ => False

def Operation.IsModification : Operation → Prop
  | insert .. | update .. | remove .. => True
  | _ => False

def Operation.IsQuery : Operation → Prop
  | query .. => True
  | _ => False

/-- Whether a message answers a task and does not report success. -/
structure Task.IsRefused (peer : Peer) (t : Task) (m : Message) : Prop where
  answers : m.Answers t.node peer.space t.operation.transaction
  status : m.status ≠ some .success

section Errors
variable {parser : Parser} {peer : Peer} {request b : Bytes} {purpose : Purpose} {c : ConnId}
variable {ds : Dialogue} {e : Error} {seen : List Bytes} {l : List Delivery} {r : Receiving}

/-- Whether receiving has not failed, or by the fault of the connection or of its bytes. -/
def Receiving.IsSpared (r : Receiving) : Prop :=
  ∀ e, r.result? = some (.error e) → e.isTransport = true

theorem not_refusal (h : e.isTransport = true) : e.isRefusal = false := by
  cases e <;> first | rfl | cases h

theorem spared_handOver (b : Buffer) : (b.handOver parser seen).IsSpared := by
  intro e he
  unfold Buffer.handOver at he
  split at he
  · cases he
  · dsimp only at he
    split at he
    · split at he
      · cases he
      · cases he
        rfl
    · cases he
    · cases he
      rfl

theorem spared_deliver (b : Buffer) (x : Delivery) : (b.deliver parser seen x).IsSpared := by
  cases x with
  | failed reason =>
    rintro e ⟨⟩
    rfl
  | bytes y =>
    cases y with
    | nil =>
      rintro e ⟨⟩
      rfl
    | cons z zs => exact spared_handOver _

theorem Receiving.IsSpared.run (h : r.IsSpared) : (r.run parser l).1.IsSpared := by
  induction l generalizing r with
  | nil => cases r <;> exact h
  | cons x rest ih =>
    cases r with
    | reading b seen => exact ih (spared_deliver b x)
    | done => exact h

theorem Sends.isTransport {r : Except Error Unit} (h : Sends c b ds r) (hr : r = .error e) :
    e.isTransport = true := by
  induction h with
  | flushed => cases hr
  | wrote some rest ih => exact ih hr
  | unflushed | stuck | unwritten =>
    cases hr
    rfl

theorem ReceivesFirst.isTransport {most : Nat} (h : ReceivesFirst parser c most ds (.error e)) :
    e.isTransport = true := by
  obtain ⟨l, b, seen, -, hrun⟩ := h
  have hspared : (Receiving.reading { capacity := most } []).IsSpared := fun _ h => by cases h
  exact hspared.run e (by rw [hrun]; rfl)

theorem Exchange.Brings.isTransport (h : Brings parser peer request ds (.error e)) :
    e.isTransport = true := by
  cases h with
  | unconnected | unfinished => rfl
  | unsent sends => exact sends.isTransport rfl
  | received _ receives => exact receives.isTransport

theorem Exchange.Tells.isTransport (h : Tells peer request ds (.error e)) : e.isTransport = true := by
  cases h with
  | unconnected => rfl
  | connected sends => exact sends.isTransport rfl

/-- An exchange that does not come to its end fails by the connection, or by the bytes that it brings. -/
theorem Exchange.Word.isTransport {r : Except Error (Option Message)}
    (h : Word parser peer request purpose ds r) (hr : r = .error e) : e.isTransport = true := by
  cases h with
  | @tell _ r tells =>
    cases r with
    | ok => cases hr
    | error e' =>
      cases hr
      exact tells.isTransport
  | @ask _ r brings | @keep _ r brings =>
    cases r with
    | ok => cases hr
    | error e' =>
      cases hr
      exact brings.isTransport

end Errors

section Tasks
variable {codec : Codec} {peer : Peer} {t : Task} {stage : Stage} {ds : Dialogue} {found : List Bool}
variable {replies : List Reply} {m : Message} {e : Error} {reply : Reply}

/-- A task fails by a refusal just if a server has answered it without success. -/
theorem Task.Fails.refused_iff (h : t.Fails codec peer ds found e) :
    e.isRefusal = true ↔ ∃ m, t.ComesTo codec peer ds (.ok (some m)) ∧ t.IsRefused peer m := by
  cases h with
  | unbuilt hf =>
    refine ⟨fun he => (Bool.false_ne_true he).elim, fun ⟨m, ⟨b, hb, _⟩, _⟩ => ?_⟩
    cases hf.symm.trans hb
  | broken comes =>
    constructor
    · intro he
      obtain ⟨b, -, hword⟩ := comes
      rw [not_refusal (hword.isTransport rfl)] at he
      cases he
    · rintro ⟨m, comes', -⟩
      cases comes.same comes'
  | @objected _ m _ _ comes objects =>
    cases objects with
    | mismatched other =>
      refine ⟨fun he => (Bool.false_ne_true he).elim, fun ⟨m', comes', hrefused⟩ => ?_⟩
      cases comes.same comes'
      exact (other hrefused.answers).elim
    | refused answers status => exact ⟨fun _ => ⟨m, comes, answers, status⟩, fun _ => rfl⟩
    | unnamed _ status | taken _ status =>
      refine ⟨fun he => (Bool.false_ne_true he).elim, fun ⟨m', comes', hrefused⟩ => ?_⟩
      cases comes.same comes'
      exact (hrefused.status status).elim

/-- The caller of a task that fails gets the failure reply of its operation, but for the payload of a
modification that was refused. -/
theorem told_failed (t : Task) (e : Error) : t.told (.failed e) =
    ((Reply.failure? t.access t.operation).map fun r =>
      if e.isRefusal then r.carrying Reply.serverRefusal else r).toList := by
  obtain ⟨_, _, _, _, _, o⟩ := t
  cases o <;> cases he : e.isRefusal <;>
    simp [Task.told, Task.conclude, Task.failure, Reply.failure?, Task.diagnostic, Reply.carrying, he]

theorem told_resultless (hq : t.operation.IsQuery) (hm : m.payload = none) :
    t.told (.message m) = (Reply.failure? t.access t.operation).toList := by
  obtain ⟨_, _, _, _, _, o⟩ := t
  cases o with
  | query => simp [Task.told, Task.conclude, Task.failure, hm]
  | _ => exact hq.elim

theorem not_subscribe_of_modification {o : Operation} (h : o.IsModification) : ¬ o.IsSubscribe := by
  cases o <;> first | exact h.elim | exact id

theorem not_subscribe_of_query {o : Operation} (h : o.IsQuery) : ¬ o.IsSubscribe := by
  cases o <;> first | exact h.elim | exact id

theorem not_refusal_of_failure {access : String} {o : Operation}
    (h : Reply.failure? access o = some reply) : ¬ reply.IsRefusal := by
  intro hr
  cases o <;> cases h <;> first | exact hr | exact absurd hr.2 (by decide)

/-- Of all that a caller may be told of a call just a refusal is told as one. -/
theorem isRefusal_of_told {result : CallResult} (hmem : reply ∈ t.told result)
    (hrefusal : reply.IsRefusal) : ∃ e, result = .failed e ∧ e.isRefusal = true := by
  cases result with
  | failed e =>
    cases he : e.isRefusal with
    | true => exact ⟨e, rfl, he⟩
    | false =>
      simp only [told_failed, he, Bool.false_eq_true, if_false, Option.map_id_fun', id_eq,
        Option.mem_toList] at hmem
      exact (not_refusal_of_failure hmem hrefusal).elim
  | message m =>
    obtain ⟨_, _, _, _, _, o⟩ := t
    cases o with
    | query =>
      cases hp : m.payload <;>
        simp [Task.told, Task.conclude, Task.failure, Reply.failure?, hp] at hmem <;>
        subst hmem <;> exact hrefusal.elim
    | _ =>
      simp [Task.told, Task.conclude] at hmem <;> subst hmem <;> simp [Reply.IsRefusal] at hrefusal
  | _ =>
    obtain ⟨_, _, _, _, _, o⟩ := t
    cases o <;> simp [Task.told, Task.conclude] at hmem

theorem Task.Fares.begun {r : Except Error (Option Message)}
    (h : t.Fares codec peer stage ds found replies) (hcomes : t.ComesTo codec peer ds r) :
    stage ≠ .queued := by
  rintro rfl
  cases h with
  | queued =>
    obtain ⟨b, -, hword⟩ := hcomes
    exact hword.ne_nil rfl
  | followed _ _ _ past => exact past

/-- Only a subscription is entered. -/
theorem Task.Fares.unentered (h : t.Fares codec peer stage ds found replies)
    (halone : ¬ t.operation.IsSubscribe) : found = [] := by
  cases h with
  | queued | exchanging | told | answered | registering => rfl
  | followed _ _ subscribes => exact (halone subscribes).elim
  | failed fails =>
    cases fails with
    | unbuilt | broken => rfl
    | objected _ objects =>
      cases objects with
      | mismatched | refused | unnamed => rfl
      | taken _ _ subscribes => exact (halone subscribes).elim

/-- The caller of a modification is told of a refusal just if there was one. -/
theorem Task.Fares.refusal_iff (h : t.Fares codec peer stage ds found replies)
    (hmod : t.operation.IsModification) : (∃ reply ∈ replies, reply.IsRefusal) ↔
      ∃ m, t.ComesTo codec peer ds (.ok (some m)) ∧ t.IsRefused peer m := by
  have halone := not_subscribe_of_modification hmod
  constructor
  · rintro ⟨reply, hmem, hrefusal⟩
    cases h with
    | queued | exchanging | registering => cases hmem
    | failed fails =>
      obtain ⟨e, he, hrefused⟩ := isRefusal_of_told hmem hrefusal
      cases he
      exact fails.refused_iff.1 hrefused
    | told | answered =>
      obtain ⟨e, he, -⟩ := isRefusal_of_told hmem hrefusal
      cases he
    | followed _ _ subscribes => exact (halone subscribes).elim
  · rintro ⟨m, hcomes, hrefused⟩
    -- The message was refused before anything could be entered, so the task has failed by it.
    obtain rfl := h.unentered halone
    have hfails := Fails.objected hcomes (.refused hrefused.answers hrefused.status)
    obtain ⟨-, rfl⟩ := h.of_fails hfails (h.begun hcomes)
    rw [told_failed]
    cases ho : t.operation <;> rw [ho] at hmod <;>
      first | exact hmod.elim | exact ⟨_, List.mem_singleton_self _, rfl, rfl⟩

end Tasks

/-- Whether a task has got what it asked for, as far as its exchange tells. -/
def Task.Gets (codec : Codec) (peer : Peer) (t : Task) (ds : Dialogue) (found : List Bool) : Prop :=
  ∃ ds', ds' <+: ds ∧ (t.ComesTo codec peer ds' (.ok none) ∨
    ∃ m, t.ComesTo codec peer ds' (.ok (some m)) ∧ t.IsConfirmed peer m ∧
      (t.operation.IsSubscribe → true ∈ found))

/-- A task that is over has failed, or has got what it asked for. -/
theorem Task.Fares.fails_or_gets {codec : Codec} {peer : Peer} {t : Task} {ds : Dialogue} {found : List Bool}
    {replies : List Reply} (h : t.Fares codec peer .ended ds found replies) :
    (∃ e, t.Fails codec peer ds found e) ∨ t.Gets codec peer ds found := by
  cases h with
  | failed fails => exact .inl ⟨_, fails⟩
  | told comes => exact .inr ⟨ds, List.prefix_rfl, .inl comes⟩
  | answered comes good alone =>
    exact .inr ⟨ds, List.prefix_rfl, .inr ⟨_, comes, good, fun h => (alone h).elim⟩⟩
  | followed comes good =>
    exact .inr ⟨_, List.prefix_append .., .inr ⟨_, comes, good, fun _ => List.mem_singleton_self _⟩⟩

/-- The reply to a request that failed, if its operation has one. -/
def Order.failure? (o : Order) : Option Reply :=
  Reply.failure? o.request.access o.request.operation

namespace Ledger

/-- Whether a request has become a task, and for which peer. -/
def Runs (config : Config) (l : Ledger) (o : Order) (t : Task) (peer : Peer) : Prop :=
  o.task? = some t ∧ ∃ server, l.gateway.registry.servers[t.server]?.map (·.info) = some server ∧
    peer = server.peer config.receiveBuffer.toNat

/-- How the caller of a request is told that it has failed. -/
structure TellsOfFailure (codec : Codec) (config : Config) (l : Ledger) (k : Ticket) (o : Order) :
    Prop where
  /-- A request that is rejected gets the failure reply of its operation. -/
  rejected : o.server = none → l.repliesOf k = o.failure?.toList.map (o.caller, ·)
  /-- So does one that has failed in the hands of a worker, unless it was refused. -/
  failed : ∀ t peer e, l.Runs config o t peer → k ∈ l.taken →
    t.Fails codec peer (l.dialogue k) (l.findings k) e → e.isRefusal = false →
    k ∈ l.released ∧ l.repliesOf k = o.failure?.toList.map (o.caller, ·)
  /-- If it was, then a modification has the refusal for its payload. -/
  refused : ∀ t peer e, l.Runs config o t peer → k ∈ l.taken →
    t.Fails codec peer (l.dialogue k) (l.findings k) e → e.isRefusal = true →
    k ∈ l.released ∧ l.repliesOf k =
      (o.failure?.map (Reply.carrying Reply.serverRefusal)).toList.map (o.caller, ·)
  /-- A query without results has failed, too. -/
  resultless : ∀ t peer m, l.Runs config o t peer →
    t.ComesTo codec peer (l.dialogue k) (.ok (some m)) → t.IsConfirmed peer m →
    o.request.operation.IsQuery → m.payload = none →
    k ∈ l.released ∧ l.repliesOf k = o.failure?.toList.map (o.caller, ·)
  /-- There is no other end but to get what was asked for. -/
  fails_or_gets : k ∈ l.released → ∃ t peer, l.Runs config o t peer ∧
    ((∃ e, t.Fails codec peer (l.dialogue k) (l.findings k) e) ∨
      t.Gets codec peer (l.dialogue k) (l.findings k))
  /-- A refusal is told of a modification just if an answer without success was received. -/
  refusal_iff : o.request.operation.IsModification →
    ((∃ reply, (o.caller, reply) ∈ l.repliesOf k ∧ reply.IsRefusal) ↔
      ∃ t peer m, l.Runs config o t peer ∧ t.ComesTo codec peer (l.dialogue k) (.ok (some m)) ∧
        t.IsRefused peer m)

section Tickets
variable {codec : Codec} {config : Config} {l : Ledger} {k : Ticket} {o : Order} {t : Task}
variable {peer : Peer}

theorem Runs.task (h : l.Runs config o t peer) :
    ∃ S, o.server = some S ∧ t = .ofRequest S o.caller o.request := by
  obtain ⟨S, hS, rfl⟩ := Option.map_eq_some_iff.1 h.1
  exact ⟨S, hS, rfl⟩

theorem Runs.unique {t' : Task} {peer' : Peer} (h : l.Runs config o t peer)
    (h' : l.Runs config o t' peer') : t = t' ∧ peer = peer' := by
  obtain ⟨ht, server, hserver, rfl⟩ := h
  obtain ⟨ht', server', hserver', rfl⟩ := h'
  obtain rfl := Option.some.inj (ht.symm.trans ht')
  obtain rfl := Option.some.inj (hserver.symm.trans hserver')
  exact ⟨rfl, rfl⟩

theorem exists_runs (config : Config) (h : l.Sound) (hk : l.orders[k]? = some o) {S : ServerId}
    (hS : o.server = some S) : ∃ t peer, l.Runs config o t peer := by
  obtain ⟨c, hc⟩ := h.owned.known k _ (task_of_order hk hS)
  obtain ⟨s, hs, rfl⟩ := Option.map_eq_some_iff.1 hc
  refine ⟨.ofRequest S o.caller o.request, _, ?_, s.info, ?_, rfl⟩
  · simp [Order.task?, hS]
  · exact Option.map_eq_some_iff.2 ⟨s, hs, rfl⟩

/-- How the task of a request fares. -/
theorem fares_of_reachable (h : Reachable codec config l) (hk : l.orders[k]? = some o)
    (hr : l.Runs config o t peer) :
    t.Fares codec peer (l.course k).stage (l.dialogue k) (l.findings k) (l.course k).replies := by
  have hsound := sound_of_reachable h
  have hplaced := placed_of_run h
  obtain ⟨S, hS, rfl⟩ := hr.task
  obtain ⟨-, server, hserver, rfl⟩ := hr
  obtain ⟨s, hs, rfl⟩ := Option.map_eq_some_iff.1 hserver
  have ht := task_of_order hk hS
  obtain ⟨hc, hpeer⟩ := hplaced.peer_of_server hs
  have hfares := @fares_course codec s.client.peer (.ofRequest S o.caller o.request) (l.inputs k)
  rwa [← hplaced.codec, ← course_eq ht hc, ← dialogue_eq ht hc, ← findings_eq ht hc, hplaced.codec,
    hpeer] at hfares

/-- A task that a worker has taken up and has not released shows in the worker's call. -/
theorem Sound.shown (h : l.Sound) (ht : l.task? k = some t) (hk : k ∈ l.taken)
    (hreleased : k ∉ l.released) : ∃ w c call own, Shows c w t call (l.course k).stage own := by
  obtain ⟨w, hw⟩ := (h.tidy.held k).2 ⟨hk, hreleased⟩
  obtain ⟨c, hc⟩ := h.owned.known k t ht
  obtain ⟨call, own, -, hs, -⟩ := h.workerNeed hw ht hc
  exact ⟨w, c, call, own, hs⟩

theorem Sound.not_queued (h : l.Sound) (ht : l.task? k = some t) (hk : k ∈ l.taken) :
    (l.course k).stage ≠ .queued := by
  intro hqueued
  by_cases hreleased : k ∈ l.released
  · cases hqueued.symm.trans (h.owned.ended k hreleased)
  · obtain ⟨w, c, call, own, hs⟩ := h.shown ht hk hreleased
    rw [hqueued] at hs
    cases hs with
    | alone h => cases h
    | sharing _ _ hg => cases hg

/-- A worker releases a task when its course has ended. -/
theorem Sound.released_of_ended (h : l.Sound) (ht : l.task? k = some t)
    (hended : (l.course k).stage = .ended) : k ∈ l.released := by
  by_contra hreleased
  by_cases hk : k ∈ l.taken
  · obtain ⟨w, c, call, own, hs⟩ := h.shown ht hk hreleased
    exact hs.not_ended hended
  · rw [course_idle (h.tidy.idle k hk)] at hended
    cases hended

/-- What a caller is told when the course of its request has ended with this. -/
theorem replies_of_ended (h : l.Sound) (hk : l.orders[k]? = some o) (hr : l.Runs config o t peer)
    {rs : List Reply} (he : (l.course k).stage = .ended ∧ (l.course k).replies = rs) :
    k ∈ l.released ∧ l.repliesOf k = rs.map (o.caller, ·) := by
  obtain ⟨S, hS, rfl⟩ := hr.task
  have ht := task_of_order hk hS
  obtain ⟨hended, rfl⟩ := he
  exact ⟨h.released_of_ended ht hended, h.accounts.replied k _ ht⟩

theorem Sound.server_of_released (h : l.Sound) (hk : l.orders[k]? = some o)
    (hreleased : k ∈ l.released) : ∃ S, o.server = some S := by
  have haccepted : k ∈ l.accepted := h.tidy.accepted ▸ List.mem_append_left _ (h.tidy.done k hreleased)
  simpa [mem_accepted, task?, hk, Order.task?, Option.isSome_iff_exists] using haccepted

/-- The caller of a modification is told that the server has refused it just if it has. -/
theorem refusal_told_iff (h : Reachable codec config l) (hk : l.orders[k]? = some o)
    (hmod : o.request.operation.IsModification) :
    (∃ reply, (o.caller, reply) ∈ l.repliesOf k ∧ reply.IsRefusal) ↔
      ∃ t peer m, l.Runs config o t peer ∧ t.ComesTo codec peer (l.dialogue k) (.ok (some m)) ∧
        t.IsRefused peer m := by
  have hsound := sound_of_reachable h
  cases hS : o.server with
  | none =>
    rw [(hsound.accounts.rejected k o hk hS).1]
    constructor
    · rintro ⟨reply, hmem, hrefusal⟩
      simp only [List.mem_map, Option.mem_toList, Prod.mk.injEq, true_and] at hmem
      obtain ⟨_, hf, rfl⟩ := hmem
      exact (not_refusal_of_failure hf hrefusal).elim
    · rintro ⟨t, peer, m, hr, -⟩
      obtain ⟨S, hS', -⟩ := hr.task
      cases hS.symm.trans hS'
  | some S =>
    obtain ⟨t, peer, hr⟩ := exists_runs config hsound hk hS
    obtain ⟨S, hS, rfl⟩ := hr.task
    have hiff := (fares_of_reachable h hk hr).refusal_iff hmod
    have hreplied := hsound.accounts.replied k _ (task_of_order hk hS)
    simp only [hreplied, List.mem_map, Prod.mk.injEq, Task.ofRequest, true_and, exists_eq_right]
    rw [hiff]
    constructor
    · rintro ⟨m, hcomes, hrefused⟩
      exact ⟨_, peer, m, hr, hcomes, hrefused⟩
    · rintro ⟨t', peer', m, hr', hcomes, hrefused⟩
      obtain ⟨rfl, rfl⟩ := hr.unique hr'
      exact ⟨m, hcomes, hrefused⟩

theorem replies_of_failed {e : Error} (h : Reachable codec config l) (hk : l.orders[k]? = some o)
    (hr : l.Runs config o t peer) (htaken : k ∈ l.taken)
    (hf : t.Fails codec peer (l.dialogue k) (l.findings k) e) :
    k ∈ l.released ∧ l.repliesOf k = (o.failure?.map fun r =>
      if e.isRefusal then r.carrying Reply.serverRefusal else r).toList.map (o.caller, ·) := by
  have hsound := sound_of_reachable h
  have hfares := fares_of_reachable h hk hr
  obtain ⟨S, hS, hof⟩ := hr.task
  have hbegun := hsound.not_queued (hof ▸ task_of_order hk hS) htaken
  have hended := hfares.of_fails hf hbegun
  rw [told_failed] at hended
  subst hof
  exact replies_of_ended hsound hk hr hended

/-- Every failure of a request is told alike. -/
theorem tells_of_failure (h : Reachable codec config l) (hk : l.orders[k]? = some o) :
    l.TellsOfFailure codec config k o := by
  have hsound := sound_of_reachable h
  constructor
  · exact fun hS => (hsound.accounts.rejected k o hk hS).1
  · intro t peer e hr htaken hf he
    simpa [he] using replies_of_failed h hk hr htaken hf
  · intro t peer e hr htaken hf he
    simpa [he] using replies_of_failed h hk hr htaken hf
  · intro t peer m hr hcomes hm hquery hnone
    have hfares := fares_of_reachable h hk hr
    obtain ⟨S, -, rfl⟩ := hr.task
    have hends := hfares.of_confirmed hcomes hm (not_subscribe_of_query hquery)
    rw [told_resultless hquery hnone] at hends
    exact replies_of_ended hsound hk hr hends
  · intro hreleased
    obtain ⟨S, hS⟩ := hsound.server_of_released hk hreleased
    obtain ⟨t, peer, hr⟩ := exists_runs config hsound hk hS
    have hfares := fares_of_reachable h hk hr
    rw [hsound.owned.ended k hreleased] at hfares
    exact ⟨t, peer, hr, hfares.fails_or_gets⟩
  · exact refusal_told_iff h hk

/-- An answer to an insertion that does not say whether it has succeeded. -/
def evasion : Message := { transaction := .insert, role := .confirm, node := "NODE", space := "space" }

def plea : CallerRequest := ⟨"Space", "node", "mark", 1, .insert .rdfM3 "a b c"⟩

/-- The plea reaches the server, which evades it. -/
def rebuff : List Move :=
  [.discover (.added ⟨"space", "", ⟨"host", 1⟩⟩), .request "caller" plea, .work 0,
    .answer 0 (.connected 7), .answer 0 (.accepted 1), .answer 0 .done, .answer 0 .done,
    .answer 0 (.delivered [0])]

theorem tells_of_failure_of_evasion :
    let l := (start (answering evasion) {}).moveAll rebuff
    l.TellsOfFailure (answering evasion) {} 0 ⟨"caller", plea, some 0⟩ ∧
      ∃ t peer m, l.Runs {} ⟨"caller", plea, some 0⟩ t peer ∧
        t.ComesTo (answering evasion) peer (l.dialogue 0) (.ok (some m)) ∧ t.IsRefused peer m := by
  have htells : ((start (answering evasion) {}).moveAll rebuff).TellsOfFailure (answering evasion) {}
      0 ⟨"caller", plea, some 0⟩ := by
    refine @tells_of_failure (answering evasion) {} _ 0 _ (run_moveAll .refl ?_) ?_
    · decide +kernel
    · rfl
  have hrefusal : ("caller", .inserted "mark" .failed Reply.serverRefusal) ∈
      ((start (answering evasion) {}).moveAll rebuff).repliesOf 0 := by
    decide +kernel
  exact ⟨htells, (htells.refusal_iff trivial).1 ⟨_, hrefusal, rfl, rfl⟩⟩

end Tickets
end Ledger
end SpaceGateway
