import SpaceGateway.Proofs.Outcome
/-!
What counts as success. A request succeeds just if the exchange for it brings a message that confirms
it: for the node that asked, from the space that was asked, in the same transaction, and with success for
its status. A caller is told of success just then.
-/
namespace SpaceGateway

/-- Whether a message confirms a transaction to a node of a space, whatever its status. -/
structure Message.Answers (m : Message) (node space : String) (tr : Transaction) : Prop where
  name : m.transaction = tr
  role : m.role = .confirm
  node : Identity.same m.node node = true
  space : Identity.same m.space space = true

/-- What a request returns when its exchange has brought this. -/
def CallResult.ofExchange (node space : String) (tr : Transaction) :
    Except Error Message → CallResult
  | .error e => .failed e
  | .ok m =>
    match m.confirmed node space tr with
    | .ok m => .message m
    | .error e => .failed e

/-- What a call returns after a dialogue with the network. Between its steps others may do with the
client what they like, but it goes to the same peer. -/
inductive Call.Returns (codec : Codec) (peer : Peer) : Call → Dialogue → CallResult → Prop
  | stops {c : Client} {k call r} (there : c.peer = peer) (need : call.need c k = .nothing)
    (stops : (call.step codec.parser c k).status = .done r) : Returns codec peer call [] r
  | steps {c : Client} {k call call' ds r} (there : c.peer = peer)
    (need : call.need c k = .nothing)
    (goes : (call.step codec.parser c k).status = .going call')
    (rest : Returns codec peer call' ds r) : Returns codec peer call ds r
  | ends {c : Client} {k call d a r} (there : c.peer = peer) (need : call.need c k = .answer d)
    (fits : (d.record? a).isSome = true)
    (stops : (call.resume codec.parser c k a).status = .done r) :
    Returns codec peer call [(d, a)] r
  | goes {c : Client} {k call call' d a ds r} (there : c.peer = peer)
    (need : call.need c k = .answer d) (fits : (d.record? a).isSome = true)
    (goes : (call.resume codec.parser c k a).status = .going call')
    (rest : Returns codec peer call' ds r) : Returns codec peer call ((d, a) :: ds) r

/-- What a command returns. One that cannot be built fails without a word to the network. -/
def Command.Returns (codec : Codec) (peer : Peer) (command : Command) (ds : Dialogue)
    (r : CallResult) : Prop :=
  match Call.ofCommand codec peer command with
  | .ok call => call.Returns codec peer ds r
  | .error f => ds = [] ∧ r = .failed (.codec f)

section Messages
variable {m m' : Message} {node space : String} {tr : Transaction}

theorem answers_iff : m.Answers node space tr ↔
    Header.fits ⟨tr, .confirm, node, space⟩ m.header = true := by
  simp only [Header.fits, Message.header, Bool.and_eq_true, beq_iff_eq]
  constructor
  · rintro ⟨hname, hrole, hnode, hspace⟩
    exact ⟨⟨⟨hnode, hspace⟩, hname⟩, hrole⟩
  · rintro ⟨⟨⟨hnode, hspace⟩, hname⟩, hrole⟩
    exact ⟨hname, hrole, hnode, hspace⟩

theorem isOk_iff : m.isOk = true ↔ m.status = some .success := by
  unfold Message.isOk
  cases m.status with
  | none => simp
  | some status => cases status <;> simp [Status.isOk]

/-- A message to or from others, or of another kind, is no answer whatever its status. -/
theorem confirmed_mismatch (h : ¬ m.Answers node space tr) :
    m.confirmed node space tr = .error (.mismatch ⟨tr, .confirm, node, space⟩ m.header) := by
  rw [answers_iff] at h
  simp [Message.confirmed, Message.check, h, bind, Except.bind]

theorem confirmed_answer (h : m.Answers node space tr) :
    m.confirmed node space tr = m.accepted tr := by
  rw [answers_iff] at h
  simp [Message.confirmed, Message.check, h, bind, Except.bind]

theorem confirmed_refused (h : m.Answers node space tr) (hs : m.status ≠ some .success) :
    m.confirmed node space tr =
      .error (.refused tr (m.status.getD (.failure "missing status"))) := by
  rw [confirmed_answer h, Message.accepted, if_neg (mt isOk_iff.1 hs)]

theorem confirmed_iff : m.confirmed node space tr = .ok m' ↔
    m.Answers node space tr ∧ m.status = some .success ∧ m' = m := by
  by_cases h : m.Answers node space tr
  · rw [confirmed_answer h, Message.accepted]
    by_cases hs : m.status = some .success
    · simp [isOk_iff.2 hs, h, hs, eq_comm]
    · simp [hs, mt isOk_iff.1 hs]
  · simp [confirmed_mismatch h, h]

theorem ofExchange_message {result : Except Error Message} :
    CallResult.ofExchange node space tr result = .message m ↔
      result = .ok m ∧ m.Answers node space tr ∧ m.status = some .success := by
  cases result with
  | error e => simp [CallResult.ofExchange]
  | ok m' =>
    simp only [CallResult.ofExchange]
    cases hm : m'.confirmed node space tr with
    | ok m₁ =>
      obtain ⟨ha, hs, rfl⟩ := confirmed_iff.1 hm
      constructor
      · intro h
        cases h
        exact ⟨rfl, ha, hs⟩
      · rintro ⟨h, -⟩
        cases h
        rfl
    | error e =>
      constructor
      · intro h
        cases h
      · rintro ⟨h, ha, hs⟩
        cases h
        rw [confirmed_iff.2 ⟨ha, hs, rfl⟩] at hm
        cases hm

end Messages

section Requests
variable {codec : Codec} {peer : Peer} {node : String} {i : UInt32} {o : Operation}
variable {tr : Transaction} {request : Bytes} {x : Exchange} {ds : Dialogue} {r : CallResult}
variable {purpose : Purpose} {a : Answer}

/-- What an exchange for an answer comes to by what it is told. -/
theorem resume_asking (h : purpose = .ask ∨ purpose = .keep) :
    (∃ x', (x.resume codec.parser peer purpose request a).1 = .busy x') ∨
      (∃ e, (x.resume codec.parser peer purpose request a).1 = .failed e) ∨
      (purpose = .ask ∧ ∃ m, (x.resume codec.parser peer purpose request a).1 = .answered m) ∨
      purpose = .keep ∧ ∃ m s, (x.resume codec.parser peer purpose request a).1 = .kept m s := by
  cases x with
  | connecting =>
    cases a with
    | connected c => exact .inl ⟨_, Exchange.resume_connected h c⟩
    | failed reason => exact .inr (.inl ⟨_, rfl⟩)
    | accepted | done | delivered => exact .inl ⟨_, rfl⟩
  | acting s act =>
    simp only [Exchange.resume]
    cases (s.resume codec.parser act a).1 with
    | busy | finished => exact .inl ⟨_, rfl⟩
    | failed s e => exact .inr (.inl ⟨e, rfl⟩)
    | sent s => rcases h with rfl | rfl <;> exact .inl ⟨_, rfl⟩
    | received s m =>
      rcases h with rfl | rfl
      · exact .inr (.inr (.inl ⟨rfl, m, rfl⟩))
      · exact .inr (.inr (.inr ⟨rfl, m, s, rfl⟩))

/-- A request goes on as long as its exchange does, and stops with it. -/
theorem resume_request (c : Client) (k : CallId) (hc : c.peer = peer) (a : Answer) :
    (∃ x', (x.resume codec.parser peer .ask request a).1 = .busy x' ∧
      ((Call.exchanging (.confirm node tr) request x).resume codec.parser c k a).status =
        .going (.exchanging (.confirm node tr) request x')) ∨
    ∃ result, (x.resume codec.parser peer .ask request a).1.result? = some result ∧
      ((Call.exchanging (.confirm node tr) request x).resume codec.parser c k a).status =
        .done (.ofExchange node peer.space tr result) := by
  subst hc
  have hstatus : ((Call.exchanging (.confirm node tr) request x).resume codec.parser c k a).status =
      (Call.exchanged c (.confirm node tr) request
        (x.resume codec.parser c.peer .ask request a).1).status := rfl
  rw [hstatus]
  rcases @resume_asking codec c.peer request x .ask a (.inl rfl) with
    ⟨x', hx⟩ | ⟨e, he⟩ | ⟨-, m, hm⟩ | ⟨h, -⟩
  · rw [hx]
    exact .inl ⟨x', rfl, rfl⟩
  · rw [he]
    exact .inr ⟨.error e, rfl, rfl⟩
  · rw [hm]
    refine .inr ⟨.ok m, rfl, ?_⟩
    simp only [Call.exchanged, CallResult.ofExchange]
    cases m.confirmed node c.peer.space tr <;> rfl
  · cases h

theorem ends_of_returns {call : Call} (h : call.Returns codec peer ds r)
    (hcall : call = .exchanging (.confirm node tr) request x) :
    ∃ result, Exchange.Ends codec.parser peer .ask request x ds result ∧
      r = .ofExchange node peer.space tr result := by
  induction h generalizing x with
  | stops there need | steps there need =>
    subst hcall
    cases need
  | @ends c k call d a r there need fits stops =>
    subst hcall there
    cases need
    rcases @resume_request codec c.peer node tr request x c k rfl a with
      ⟨x', -, hs⟩ | ⟨result, hr, hs⟩
    · rw [hs] at stops
      cases stops
    · rw [hs] at stops
      cases stops
      exact ⟨result, (Exchange.ends_over fits rfl hr).2 ⟨rfl, rfl⟩, rfl⟩
  | @goes c k call call' d a ds r there need fits goes rest ih =>
    subst hcall there
    cases need
    rcases @resume_request codec c.peer node tr request x c k rfl a with
      ⟨x', hx, hs⟩ | ⟨result, -, hs⟩
    · rw [hs] at goes
      cases goes
      obtain ⟨result, hends, hr⟩ := ih rfl
      exact ⟨result, (Exchange.ends_busy fits hx).2 hends, hr⟩
    · rw [hs] at goes
      cases goes

theorem returns_of_ends {result : Except Error Message}
    (h : Exchange.Ends codec.parser peer .ask request x ds result) :
    (Call.exchanging (.confirm node tr) request x).Returns codec peer ds
      (.ofExchange node peer.space tr result) := by
  induction ds generalizing x with
  | nil => exact (Exchange.not_ends_nil h).elim
  | cons said rest ih =>
    obtain ⟨d, a⟩ := said
    obtain ⟨rfl, ha⟩ := h.demand
    rcases @resume_request codec peer node tr request x { peer } 0 rfl a with
      ⟨x', hx, hs⟩ | ⟨result', hr, hs⟩
    · exact .goes rfl rfl ha hs (ih ((Exchange.ends_busy ha hx).1 h))
    · obtain ⟨rfl, rfl⟩ := (Exchange.ends_over ha rfl hr).1 h
      exact .ends rfl rfl ha hs

/-- A request that can be built returns what its exchange comes to. -/
theorem returns_request {b : Bytes} (hb : codec.build ⟨peer.space, node, i, o⟩ = .ok b) :
    (Command.request node i o).Returns codec peer ds r ↔
      ∃ result, Exchange.Brings codec.parser peer b ds result ∧
        r = .ofExchange node peer.space o.transaction result := by
  have hcall : Call.ofCommand codec peer (.request node i o) =
      .ok (.exchanging (.confirm node o.transaction) b .connecting) := by
    simp [Call.ofCommand, hb, bind, Except.bind, pure, Except.pure]
  simp only [Command.Returns, hcall]
  constructor
  · intro h
    obtain ⟨result, hends, hr⟩ := ends_of_returns h rfl
    exact ⟨result, (Exchange.ends_iff_brings (.inl rfl)).1 hends, hr⟩
  · rintro ⟨result, hbrings, rfl⟩
    exact returns_of_ends ((Exchange.ends_iff_brings (.inl rfl)).2 hbrings)

theorem returns_unbuilt {f : CodecFault} (hf : codec.build ⟨peer.space, node, i, o⟩ = .error f) :
    (Command.request node i o).Returns codec peer ds r ↔ ds = [] ∧ r = .failed (.codec f) := by
  have hcall : Call.ofCommand codec peer (.request node i o) = .error f := by
    simp [Call.ofCommand, hf, bind, Except.bind]
  simp only [Command.Returns, hcall]

/-- How a request of a node to a peer is judged by what its connection brings. -/
structure Request.IsJudged (codec : Codec) (peer : Peer) (node : String) (i : UInt32)
    (o : Operation) : Prop where
  /-- It succeeds with a message that confirms it, and only so. -/
  success : ∀ ds m, (Command.request node i o).Returns codec peer ds (.message m) ↔
    ∃ b, codec.build ⟨peer.space, node, i, o⟩ = .ok b ∧
      Exchange.Brings codec.parser peer b ds (.ok m) ∧
      m.Answers node peer.space o.transaction ∧ m.status = some .success
  /-- A message that is no answer is a mismatch, whatever its status. -/
  mismatch : ∀ b ds m, codec.build ⟨peer.space, node, i, o⟩ = .ok b →
    Exchange.Brings codec.parser peer b ds (.ok m) → ¬ m.Answers node peer.space o.transaction →
    ∀ r, (Command.request node i o).Returns codec peer ds r ↔
      r = .failed (.mismatch ⟨o.transaction, .confirm, node, peer.space⟩ m.header)
  /-- An answer without success is a refusal. -/
  refused : ∀ b ds m, codec.build ⟨peer.space, node, i, o⟩ = .ok b →
    Exchange.Brings codec.parser peer b ds (.ok m) → m.Answers node peer.space o.transaction →
    m.status ≠ some .success →
    ∀ r, (Command.request node i o).Returns codec peer ds r ↔
      r = .failed (.refused o.transaction (m.status.getD (.failure "missing status")))
  /-- Without a message it fails as the first stage does that fails. -/
  broken : ∀ b ds e, codec.build ⟨peer.space, node, i, o⟩ = .ok b →
    Exchange.Brings codec.parser peer b ds (.error e) →
    ∀ r, (Command.request node i o).Returns codec peer ds r ↔ r = .failed e
  unbuilt : ∀ f, codec.build ⟨peer.space, node, i, o⟩ = .error f →
    ∀ ds r, (Command.request node i o).Returns codec peer ds r ↔ ds = [] ∧ r = .failed (.codec f)

theorem brings_unique {b : Bytes} {result result' : Except Error Message}
    (h : Exchange.Brings codec.parser peer b ds result)
    (h' : Exchange.Brings codec.parser peer b ds result') : result = result' := by
  have h := (Exchange.ends_iff_brings (.inl rfl)).2 h
  have h' := (Exchange.ends_iff_brings (.inl rfl)).2 h'
  exact Option.some.inj (h.symm.trans h')

theorem returns_brought {b : Bytes} {result : Except Error Message}
    (hb : codec.build ⟨peer.space, node, i, o⟩ = .ok b)
    (h : Exchange.Brings codec.parser peer b ds result) :
    (Command.request node i o).Returns codec peer ds r ↔
      r = .ofExchange node peer.space o.transaction result := by
  rw [returns_request hb]
  constructor
  · rintro ⟨result', h', rfl⟩
    rw [brings_unique h h']
  · rintro rfl
    exact ⟨result, h, rfl⟩

theorem request_isJudged : Request.IsJudged codec peer node i o := by
  refine ⟨?_, ?_, ?_, ?_, fun f hf ds r => returns_unbuilt hf⟩
  · intro ds m
    cases hb : codec.build ⟨peer.space, node, i, o⟩ with
    | error f => simp [returns_unbuilt hb]
    | ok b =>
      rw [returns_request hb]
      constructor
      · rintro ⟨result, hbrings, hr⟩
        obtain ⟨rfl, ha, hs⟩ := ofExchange_message.1 hr.symm
        exact ⟨b, rfl, hbrings, ha, hs⟩
      · rintro ⟨b', he, hbrings, ha, hs⟩
        cases he
        exact ⟨.ok m, hbrings, (ofExchange_message.2 ⟨rfl, ha, hs⟩).symm⟩
  · intro b ds m hb h hm r
    rw [returns_brought hb h, CallResult.ofExchange, confirmed_mismatch hm]
  · intro b ds m hb h hm hs r
    rw [returns_brought hb h, CallResult.ofExchange, confirmed_refused hm hs]
  · intro b ds e hb h r
    exact returns_brought hb h

end Requests
end SpaceGateway
