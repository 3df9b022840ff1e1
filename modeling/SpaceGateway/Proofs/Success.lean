import SpaceGateway.Proofs.Fates
/-!
Whom a gateway tells of success. The task of a request goes on as the exchange for it does, and its
caller is told that the operation was carried out just if the exchange has brought a message that
confirms it.
-/
namespace SpaceGateway

/-- Whether a caller is told that an operation was carried out. -/
def Operation.HasResponse : Operation → Prop
  | leave | unsubscribe _ => False
  | _ => True

/-- Whether a message carries what an operation asks for besides its confirmation: the results of a
query, or the name of a subscription. -/
def Message.Carries (m : Message) : Operation → Prop
  | .query .. => m.payload.isSome = true
  | .subscribe .. => m.subscription.isSome = true
  | _ => True

/-- Whether a reply says that an operation was carried out. -/
def Reply.Reports : Operation → Reply → Prop
  | .join, joined _ outcome => outcome = .ok
  | .insert .., inserted _ outcome _ => outcome = .ok
  | .update .., updated _ outcome _ => outcome = .ok
  | .remove .., removed _ outcome _ => outcome = .ok
  | .query .., results _ outcome _ => outcome = .ok
  | .subscribe .., subscribed _ outcome .. => outcome = .ok
  | _, _ => False

/-- Whether the exchange of a task ends by a dialogue, and with what. -/
def Task.Ends (codec : Codec) (peer : Peer) (t : Task) (ds : Dialogue) (r : Except Error Message) :
    Prop :=
  ∃ b, codec.build (t.request peer.space) = .ok b ∧
    Exchange.Ends codec.parser peer t.aim.purpose b .connecting ds r

/-- Whether a task has got what it asked for: its exchange has brought a message that confirms it, and
its subscription was free. -/
def Task.HasSucceeded (codec : Codec) (peer : Peer) (t : Task) (ds : Dialogue) (found : List Bool) :
    Prop :=
  ∃ m ds', ds' <+: ds ∧ t.Ends codec peer ds' (.ok m) ∧ t.IsConfirmed peer m ∧
    m.Carries t.operation ∧ (t.operation.IsSubscribe → true ∈ found)

/-- How far a task has come, what was said and found on the way, and what its caller was told. -/
inductive Task.Stands (codec : Codec) (peer : Peer) (t : Task) :
    Stage → Dialogue → List Bool → List Reply → Prop
  | queued : Stands codec peer t .queued [] [] []
  | unbuilt {f} (unbuilt : codec.build (t.request peer.space) = .error f) :
    Stands codec peer t .ended [] [] (t.told (.failed (.codec f)))
  | exchanging {b x ds} (built : codec.build (t.request peer.space) = .ok b)
    (run : Exchange.run codec.parser peer t.aim.purpose b .connecting ds = some (.busy x)) :
    Stands codec peer t (.calling (.exchanging t.aim b x)) ds [] []
  /-- The exchange has not brought what the task asked for. -/
  | failed {ds r e} (ends : t.Ends codec peer ds r) (bad : ∀ m, r = .ok m → ¬ t.IsConfirmed peer m) :
    Stands codec peer t .ended ds [] (t.told (.failed e))
  | answered {ds m} (ends : t.Ends codec peer ds (.ok m)) (good : t.IsConfirmed peer m)
    (alone : ¬ t.operation.IsSubscribe) :
    Stands codec peer t .ended ds [] (t.told (.message m))
  | registering {ds m subscription s} (ends : t.Ends codec peer ds (.ok m))
    (good : t.IsConfirmed peer m) (subscribes : t.operation.IsSubscribe) :
    Stands codec peer t (.calling (.registering m subscription s)) ds [] []
  | taken {ds e} (subscribes : t.operation.IsSubscribe) :
    Stands codec peer t .ended ds [false] (t.told (.failed e))
  /-- The subscription is followed, or over. -/
  | followed {stage : Stage} {ds more m replies} (ends : t.Ends codec peer ds (.ok m))
    (good : t.IsConfirmed peer m) (subscribes : t.operation.IsSubscribe) (past : stage.IsPast) :
    Stands codec peer t stage (ds ++ more) [true] (t.told (.message m) ++ replies)

section Tasks
variable {codec : Codec} {peer : Peer} {t : Task} {stage : Stage} {ds : Dialogue} {found : List Bool}
variable {replies : List Reply} {m : Message} {r : Except Error Message}

theorem Message.carries_of_subscribe {o : Operation} (h : o.IsSubscribe) :
    m.Carries o ↔ m.subscription.isSome = true := by
  cases o with
  | subscribe => exact Iff.rfl
  | _ => exact h.elim

theorem purpose_of_response (h : t.operation.HasResponse) :
    t.aim.purpose = .ask ∨ t.aim.purpose = .keep := by
  unfold Task.aim
  cases ho : t.operation with
  | leave | unsubscribe => simp [ho, Operation.HasResponse] at h
  | subscribe => exact .inr rfl
  | _ => exact .inl rfl

theorem Task.ComesTo.ends {r : Except Error (Option Message)} (h : t.ComesTo codec peer ds r)
    (hp : t.aim.purpose = .ask ∨ t.aim.purpose = .keep) :
    ∃ r', t.Ends codec peer ds r' ∧ r = r'.map some := by
  obtain ⟨b, hb, hword⟩ := h
  have hends {r'} (hbrings : Exchange.Brings codec.parser peer b ds r') : t.Ends codec peer ds r' :=
    ⟨b, hb, (Exchange.ends_iff_brings hp).2 hbrings⟩
  generalize t.aim.purpose = purpose at hp hword
  cases hword with
  | tell => rcases hp with hp | hp <;> cases hp
  | ask brings | keep brings => exact ⟨_, hends brings, rfl⟩

theorem Task.ComesTo.ends_ok (h : t.ComesTo codec peer ds (.ok (some m)))
    (hp : t.aim.purpose = .ask ∨ t.aim.purpose = .keep) : t.Ends codec peer ds (.ok m) := by
  obtain ⟨r', hends, hr⟩ := h.ends hp
  cases r' with
  | error => cases hr
  | ok => cases hr; exact hends

/-- A task that waits for a message stands as it fares. -/
theorem Task.Fares.stands (h : t.Fares codec peer stage ds found replies)
    (hp : t.aim.purpose = .ask ∨ t.aim.purpose = .keep) :
    t.Stands codec peer stage ds found replies := by
  cases h with
  | queued => exact .queued
  | exchanging built run => exact .exchanging built run
  | answered comes good alone => exact .answered (comes.ends_ok hp) good alone
  | registering comes good subscribes => exact .registering (comes.ends_ok hp) good subscribes
  | followed comes good subscribes past =>
    exact .followed (comes.ends_ok hp) good subscribes past
  | told comes =>
    obtain ⟨r', -, hr⟩ := comes.ends hp
    cases r' <;> cases hr
  | failed fails =>
    cases fails with
    | unbuilt hf => exact .unbuilt hf
    | broken comes =>
      obtain ⟨r', hends, hr⟩ := comes.ends hp
      cases r' with
      | ok => cases hr
      | error =>
        refine .failed hends ?_
        intro m hm
        cases hm
    | @objected _ m found _ comes objects =>
      have hgood (hm : t.IsConfirmed peer m) := objects.of_confirmed hm
      cases objects with
      | taken _ _ subscribes => exact .taken subscribes
      | mismatched | refused | unnamed =>
        refine .failed (comes.ends_ok hp) ?_
        rintro m ⟨⟩ hm
        cases (hgood hm).2

theorem stands_course (hp : t.aim.purpose = .ask ∨ t.aim.purpose = .keep) (inputs : List Input) :
    t.Stands codec peer (course codec peer t inputs).stage (dialogue codec peer t inputs)
      (findings codec peer t inputs) (course codec peer t inputs).replies :=
  (fares_course inputs).stands hp

theorem not_reports_nil {o : Operation} : ¬ ∃ reply ∈ [], Reply.Reports o reply := by
  simp

theorem not_reports_failure {o : Operation} {access : String} {reply : Reply}
    (h : Reply.failure? access o = some reply) : ¬ reply.Reports o := by
  intro hr
  cases o <;> cases h <;> cases hr

theorem not_reports_failed (e : Error) :
    ¬ ∃ reply ∈ t.told (.failed e), reply.Reports t.operation := by
  rintro ⟨reply, hm, hr⟩
  obtain ⟨_, _, _, _, _, o⟩ := t
  cases o <;> simp [Task.told, Task.conclude, Task.failure, Reply.failure?] at hm <;> subst hm <;>
    cases hr

theorem reports_message (h : t.operation.HasResponse) (hm : t.IsConfirmed peer m) :
    (∃ reply ∈ t.told (.message m), reply.Reports t.operation) ↔ m.Carries t.operation := by
  have hn := hm.named
  obtain ⟨_, _, _, _, _, o⟩ := t
  cases o with
  | leave | unsubscribe => exact h.elim
  | query =>
    cases hp : m.payload <;>
      simp [Task.told, Task.conclude, Task.failure, Reply.failure?, Message.Carries,
        Reply.Reports, hp]
  | subscribe => simpa [Task.told, Task.conclude, Reply.Reports, Message.Carries] using hn trivial
  | _ => simp [Task.told, Task.conclude, Message.Carries, Reply.Reports]

theorem Task.Ends.unique {ds' : Dialogue} {r' : Except Error Message} (h : t.Ends codec peer ds r)
    (h' : t.Ends codec peer ds' r') (hp : ds <+: ds') : r = r' := by
  obtain ⟨more, rfl⟩ := hp
  obtain ⟨b, hb, h⟩ := h
  obtain ⟨b', hb', h'⟩ := h'
  obtain rfl := Except.ok.inj (hb.symm.trans hb')
  exact (h.unique h').2

/-- The caller of a task is told of success just if the task has succeeded. -/
theorem Task.Stands.reports_iff (h : t.Stands codec peer stage ds found replies)
    (hresp : t.operation.HasResponse) :
    (∃ reply ∈ replies, reply.Reports t.operation) ↔ t.HasSucceeded codec peer ds found := by
  cases h with
  | queued =>
    refine ⟨fun h => (not_reports_nil h).elim, ?_⟩
    rintro ⟨m, ds', hp, ⟨b, -, hends⟩, -⟩
    obtain rfl := List.prefix_nil.1 hp
    exact (Exchange.not_ends_nil hends).elim
  | unbuilt hf =>
    refine ⟨fun h => (not_reports_failed _ h).elim, ?_⟩
    rintro ⟨m, ds', -, ⟨b, hb, -⟩, -⟩
    rw [hf] at hb
    cases hb
  | exchanging built run =>
    refine ⟨fun h => (not_reports_nil h).elim, ?_⟩
    rintro ⟨m, ds', ⟨more, rfl⟩, ⟨b, hb, hends⟩, -⟩
    obtain rfl := Except.ok.inj (built.symm.trans hb)
    obtain rfl := hends.append run
    rw [List.append_nil] at run
    simp [Exchange.Ends, run, Exchange.Progress.result?] at hends
  | failed ends bad =>
    refine ⟨fun h => (not_reports_failed _ h).elim, ?_⟩
    rintro ⟨m, ds', hp, hends, hgood, -⟩
    exact (bad m (hends.unique ends hp).symm hgood).elim
  | answered ends good alone =>
    rw [reports_message hresp good]
    constructor
    · intro hcarries
      exact ⟨_, _, List.prefix_refl _, ends, good, hcarries, fun h => (alone h).elim⟩
    · rintro ⟨m, ds', hp, hends, -, hcarries, -⟩
      cases hends.unique ends hp
      exact hcarries
  | registering ends good subscribes =>
    refine ⟨fun h => (not_reports_nil h).elim, ?_⟩
    rintro ⟨m, ds', -, -, -, -, hfree⟩
    exact (List.not_mem_nil (hfree subscribes)).elim
  | taken subscribes =>
    refine ⟨fun h => (not_reports_failed _ h).elim, ?_⟩
    rintro ⟨m, ds', -, -, -, -, hfree⟩
    simpa using hfree subscribes
  | @followed stage ds more m replies ends good subscribes past =>
    have hcarries := (Message.carries_of_subscribe subscribes).2 (good.named subscribes)
    constructor
    · intro _
      exact ⟨m, ds, List.prefix_append .., ends, good, hcarries, fun _ => List.mem_singleton_self _⟩
    · intro _
      obtain ⟨reply, hm, hr⟩ := (reports_message hresp good).2 hcarries
      exact ⟨reply, List.mem_append_left _ hm, hr⟩

end Tasks

namespace Ledger

/-- Whether the caller of a request has been told that the operation was carried out. -/
def TellsOfSuccess (l : Ledger) (k : Ticket) (o : Order) : Prop :=
  ∃ reply, (o.caller, reply) ∈ l.repliesOf k ∧ reply.Reports o.request.operation

/-- Whether a server has confirmed a request by a message: the first one on the connection that was
opened for the request. A subscription must have been free, too. -/
structure Confirms (codec : Codec) (config : Config) (l : Ledger) (k : Ticket) (r : CallerRequest)
    (server : ServerInfo) (m : Message) : Prop where
  brought : ∃ b ds, codec.build ⟨server.identity, r.node, r.transactionId, r.operation⟩ = .ok b ∧
    ds <+: l.dialogue k ∧
    Exchange.Brings codec.parser (server.peer config.receiveBuffer.toNat) b ds (.ok m)
  answers : m.Answers r.node server.identity r.operation.transaction
  status : m.status = some .success
  carries : m.Carries r.operation
  free : r.operation.IsSubscribe → true ∈ l.findings k

/-- Whether the server that has a request has confirmed it. -/
def IsConfirmed (codec : Codec) (config : Config) (l : Ledger) (k : Ticket) (o : Order) : Prop :=
  ∃ S server m, o.server = some S ∧
    l.gateway.registry.servers[S]?.map (·.info) = some server ∧
    Confirms codec config l k o.request server m

section Runs
variable {codec : Codec} {config : Config} {l : Ledger} {k : Ticket} {o : Order} {S : ServerId}
variable {r : CallerRequest} {s : Server}

theorem hasSucceeded_iff (hresp : r.operation.HasResponse) (S : ServerId) (caller : CallerId)
    (hpeer : s.client.peer = s.info.peer config.receiveBuffer.toNat) :
    (Task.ofRequest S caller r).HasSucceeded codec s.client.peer (l.dialogue k) (l.findings k) ↔
      ∃ m, Confirms codec config l k r s.info m := by
  have hpurpose := @purpose_of_response (.ofRequest S caller r) hresp
  rw [hpeer]
  constructor
  · rintro ⟨m, ds, hp, ⟨b, hb, hends⟩, hgood, hcarries, hfree⟩
    refine ⟨m, ⟨b, ds, hb, hp, ?_⟩, hgood.answers, hgood.status, hcarries, hfree⟩
    exact (Exchange.ends_iff_brings hpurpose).1 hends
  · rintro ⟨m, ⟨b, ds, hb, hp, hbrings⟩, hanswers, hstatus, hcarries, hfree⟩
    refine ⟨m, ds, hp, ⟨b, hb, (Exchange.ends_iff_brings hpurpose).2 hbrings⟩, ?_, hcarries, hfree⟩
    exact ⟨hanswers, hstatus, fun hsub => (Message.carries_of_subscribe hsub).1 hcarries⟩

/-- A caller is told of success just if its request has been confirmed. -/
theorem tells_iff (h : Reachable codec config l) (hk : l.orders[k]? = some o)
    (hresp : o.request.operation.HasResponse) :
    l.TellsOfSuccess k o ↔ l.IsConfirmed codec config k o := by
  have hsound := sound_of_reachable h
  have hplaced := placed_of_run h
  cases hS : o.server with
  | none =>
    have hr := (hsound.accounts.rejected k o hk hS).1
    constructor
    · rintro ⟨reply, hm, hreports⟩
      rw [hr] at hm
      simp only [List.mem_map, Option.mem_toList, Prod.mk.injEq, true_and] at hm
      obtain ⟨_, hfailure, rfl⟩ := hm
      exact (not_reports_failure hfailure hreports).elim
    · rintro ⟨S, server, m, hS', -⟩
      rw [hS] at hS'
      cases hS'
  | some S =>
    have ht := task_of_order hk hS
    obtain ⟨c, hc⟩ := hsound.owned.known k _ ht
    obtain ⟨s, hs, rfl⟩ := Option.map_eq_some_iff.1 hc
    change l.gateway.registry.servers[S]? = some s at hs
    have hpurpose := @purpose_of_response (.ofRequest S o.caller o.request) hresp
    have hstands := @stands_course codec s.client.peer _ hpurpose (l.inputs k)
    rw [← hplaced.codec, ← course_eq ht hc, ← dialogue_eq ht hc, ← findings_eq ht hc,
      hplaced.codec] at hstands
    have htells : l.TellsOfSuccess k o ↔
        ∃ reply ∈ (l.course k).replies, reply.Reports o.request.operation := by
      simp [TellsOfSuccess, hsound.accounts.replied k _ ht, Task.ofRequest]
    have hsucceeds := @hasSucceeded_iff codec config l k _ s hresp S o.caller
      (hplaced.peer_of_server hs).2
    refine (htells.trans ((hstands.reports_iff hresp).trans hsucceeds)).trans ?_
    simp only [IsConfirmed, hS]
    constructor
    · rintro ⟨m, hm⟩
      exact ⟨S, s.info, m, rfl, by rw [hs]; rfl, hm⟩
    · rintro ⟨S', server, m, hS', hserver, hm⟩
      cases hS'
      rw [hs] at hserver
      cases hserver
      exact ⟨m, hm⟩

/-- A request succeeds just if its exchange brings a message that confirms it, and a caller is told of
success just if that is so. A message that is no answer is a mismatch, and an answer without success is
a refusal. -/
theorem success_is_confirmed :
    (∀ codec peer node i o, Request.IsJudged codec peer node i o) ∧
      ∀ codec config l k o, Reachable codec config l → l.orders[k]? = some o →
        o.request.operation.HasResponse →
        (l.TellsOfSuccess k o ↔ l.IsConfirmed codec config k o) :=
  ⟨fun _ _ _ _ _ => request_isJudged, fun _ _ _ _ _ => tells_iff⟩

/-- A codec of servers that answer everything with this. -/
def answering (m : Message) : Codec := ⟨fun _ => .ok [1], fun _ => .complete 1 m⟩

def welcome : Message :=
  { transaction := .join, role := .confirm, node := "NODE", space := "space"
    status := some .success }

def knock : CallerRequest := ⟨"Space", "node", "mark", 1, .join⟩

def admission : List Move :=
  [.discover (.added ⟨"space", "", ⟨"host", 1⟩⟩), .request "caller" knock, .work 0,
    .answer 0 (.connected 7), .answer 0 (.accepted 1), .answer 0 .done, .answer 0 .done,
    .answer 0 (.delivered [0])]

/-- What is said on its way. -/
def greeting : Dialogue :=
  [(.connect ⟨"host", 1⟩, .connected 7), (.write 7 [1], .accepted 1), (.flush 7, .done),
    (.finish 7, .done), (.read 7 64, .delivered [0])]

theorem brings_greeting (m : Message) : Exchange.Brings (answering m).parser
    ⟨"space", ⟨"host", 1⟩, 64⟩ [1] greeting (.ok m) := by
  have hsends : Sends 7 [1] [(.write 7 [1], .accepted 1), (.flush 7, .done)] (.ok ()) :=
    .wrote (List.cons_ne_nil 1 []) .flushed
  have hreceives : ReceivesFirst (answering m).parser 7 64 [(.read 7 64, .delivered [0])] (.ok m) :=
    ⟨[.bytes [0]], _, _, rfl, rfl⟩
  exact .received hsends hreceives

/-- The welcome of another node is none, and a welcome of this one is, in whatever case it is named. -/
theorem success_of_welcome :
    ((start (answering welcome) {}).moveAll admission).IsConfirmed (answering welcome) {} 0
      ⟨"caller", knock, some 0⟩ ∧
    let other := { welcome with node := "other" }
    (Command.request "node" 1 .join).Returns (answering other) ⟨"space", ⟨"host", 1⟩, 64⟩ greeting
      (.failed (.mismatch ⟨.join, .confirm, "node", "space"⟩ other.header)) := by
  obtain ⟨hjudged, htells⟩ := success_is_confirmed
  constructor
  · refine (htells _ _ _ 0 ⟨"caller", knock, some 0⟩ (run_moveAll .refl ?_) rfl trivial).1
      ⟨.joined "mark" .ok, ?_, rfl⟩
    · decide +kernel
    · decide +kernel
  · refine ((hjudged _ _ _ _ _).mismatch [1] greeting _ rfl (brings_greeting _) ?_ _).2 rfl
    intro h
    have hnode := h.node
    revert hnode
    decide

end Runs
end Ledger
end SpaceGateway
