import SpaceGateway.Proofs.Connections
import SpaceGateway.Proofs.Endings
import SpaceGateway.Proofs.Progress
/-!
A poll for one notice of a subscription that nobody else uses. It receives one message, and what that
says decides the notice. The subscription stays as the receiving has left it if the notice is an
indication, and is closed and out of the table if not.
-/
namespace SpaceGateway

namespace Message

/-- Whether a message is news of a subscription for this node and from this space. -/
def IsNews (m : Message) (node space : String) : Prop :=
  (m.is .subscribe .indication = true ∨ m.transaction = .unsubscribe ∧ m.role ≠ .request) ∧
    Identity.same m.node node = true ∧ Identity.same m.space space = true

/-- The header that a poll expects of a message. -/
def awaited (m : Message) (node space : String) : Header :=
  if m.transaction = .unsubscribe ∧ m.role ≠ .request then ⟨.unsubscribe, m.role, node, space⟩
  else ⟨.subscribe, .indication, node, space⟩

end Message

/-- Which notice a poll makes of what it has received. -/
structure Notice.MadeOf (node space sub : String) (x : Except Error Message) (n : Notice) : Prop where
  indication : (∃ i added removed, n = .indication i added removed) ↔
    ∃ m, x = .ok m ∧ m.indicates node space sub = true
  ended : (∃ status, n = .ended status) ↔ ∃ m, x = .ok m ∧ m.Concludes node space sub
  indicated : ∀ m, x = .ok m → m.indicates node space sub = true →
    n = .indication (m.sequence.getD 0) (m.added.getD "") (m.removed.getD "")
  concluded : ∀ m, x = .ok m → m.Concludes node space sub → n = .ended (m.status.getD .success)
  unreceived : ∀ e, x = .error e → n = .failed e
  /-- Whatever subscription the message is for. -/
  mismatched : ∀ m, x = .ok m → ¬ m.IsNews node space →
    n = .failed (.mismatch (m.awaited node space) m.header)
  misdirected : ∀ m, x = .ok m → m.IsNews node space →
    Identity.same (m.subscription.getD "") sub = false →
    n = .failed (.wrongSubscription sub (m.subscription.getD ""))

section Notices
variable {m : Message} {node space sub : String}

theorem fits_awaited_iff : (m.awaited node space).fits m.header = true ↔ m.IsNews node space := by
  unfold Message.awaited Message.IsNews
  split
  · next hends => simp [Header.fits, Message.header, hends]
  · next hends =>
    simp only [Header.fits, Message.header, Message.is, Bool.and_eq_true, beq_iff_eq, hends,
      or_false]
    constructor
    · rintro ⟨⟨⟨hn, hs⟩, ht⟩, hr⟩
      exact ⟨⟨ht, hr⟩, hn, hs⟩
    · rintro ⟨⟨ht, hr⟩, hn, hs⟩
      exact ⟨⟨⟨hn, hs⟩, ht⟩, hr⟩

theorem classify_checked : Notice.classify node space sub m =
    match m.check (m.awaited node space) with
    | .error e => .error e
    | .ok _ =>
      if !Identity.same (m.subscription.getD "") sub then
        .error (.wrongSubscription sub (m.subscription.getD ""))
      else if m.transaction = .unsubscribe ∧ m.role ≠ .request then
        .ok (.ended (m.status.getD .success))
      else .ok (.indication (m.sequence.getD 0) (m.added.getD "") (m.removed.getD "")) := rfl

theorem classify_mismatched (h : ¬ m.IsNews node space) :
    Notice.classify node space sub m = .error (.mismatch (m.awaited node space) m.header) := by
  rw [← fits_awaited_iff] at h
  simp [classify_checked, Message.check, h]

theorem classify_misdirected (h : m.IsNews node space)
    (hsub : Identity.same (m.subscription.getD "") sub = false) :
    Notice.classify node space sub m = .error (.wrongSubscription sub (m.subscription.getD "")) := by
  rw [← fits_awaited_iff] at h
  simp [classify_checked, Message.check, h, hsub]

theorem indicates_iff : m.indicates node space sub = true ↔
    m.is .subscribe .indication = true ∧ Identity.same m.node node = true ∧
      Identity.same m.space space = true ∧ Identity.same (m.subscription.getD "") sub = true := by
  simp only [Message.indicates, Bool.and_eq_true, and_assoc]

/-- News of the subscription is an indication of it, or concludes it. -/
theorem Message.IsNews.cases (h : m.IsNews node space)
    (hsub : Identity.same (m.subscription.getD "") sub = true) :
    m.indicates node space sub = true ∨ m.Concludes node space sub := by
  obtain ⟨hkind, hn, hs⟩ := h
  exact hkind.imp (fun hi => indicates_iff.2 ⟨hi, hn, hs, hsub⟩) fun hends => ⟨hends, hn, hs, hsub⟩

theorem isNews_of_indicates (h : m.indicates node space sub = true) : m.IsNews node space :=
  have ⟨hkind, hn, hs, _⟩ := indicates_iff.1 h
  ⟨.inl hkind, hn, hs⟩

theorem Message.Concludes.isNews (h : m.Concludes node space sub) : m.IsNews node space :=
  ⟨.inr h.1, h.2.1, h.2.2.1⟩

theorem not_concludes (h : m.indicates node space sub = true) : ¬ m.Concludes node space sub := by
  rintro ⟨⟨ht, -⟩, -⟩
  simp [indicates_iff, Message.is, ht] at h

/-- What a poll makes of what it has received. -/
theorem madeOf_classify (node space sub : String) (x : Except Error Message) :
    Notice.MadeOf node space sub x (.ofResult (x.bind (Notice.classify node space sub))) := by
  cases x with
  | error e => constructor <;> simp [Except.bind, Notice.ofResult]
  | ok m =>
    change Notice.MadeOf node space sub (.ok m) (.ofResult (Notice.classify node space sub m))
    by_cases hnews : m.IsNews node space
    · cases hsub : Identity.same (m.subscription.getD "") sub with
      | true =>
        rcases hnews.cases hsub with hi | hc
        · rw [classify_indicates hi]
          constructor <;> simp [Notice.ofResult, hi, not_concludes hi, hnews, hsub]
        · have hi : m.indicates node space sub = false :=
            Bool.eq_false_iff.2 fun hi => not_concludes hi hc
          rw [classify_concludes hc]
          constructor <;> simp [Notice.ofResult, hi, hc, hnews, hsub]
      | false =>
        rw [classify_misdirected hnews hsub]
        constructor <;> simp [Notice.ofResult, indicates_iff, Message.Concludes, hnews, hsub]
    · have hi : m.indicates node space sub = false :=
        Bool.eq_false_iff.2 fun hi => hnews (isNews_of_indicates hi)
      have hc : ¬ m.Concludes node space sub := fun hc => hnews hc.isNews
      rw [classify_mismatched hnews]
      constructor <;> simp [Notice.ofResult, hi, hc, hnews]

end Notices

/-- What one receive on a session comes to by the reads that it makes: the buffer that it leaves, and
what it brings. -/
inductive Session.Takes (parser : Parser) (s : Session) :
    List Delivery → Buffer → Except Error Message → Prop
  | refused (closed : s.isOpen = false) :
    Takes parser s [] s.buffer (.error (.receiveFailed closedReason))
  | received {l b seen r} (isOpen : s.isOpen = true)
    (run : (s.buffer.receive parser).run parser l = (.done b seen r, [])) : Takes parser s l b r

section Takes
variable {parser : Parser} {s : Session} {l : List Delivery} {b : Buffer} {m : Message}
variable {x : Delivery} {r : Receiving} {seen : List Bytes}

theorem Receiving.run_snoc (h : r.run parser l = (.reading b seen, [])) :
    r.run parser (l ++ [x]) = (b.deliver parser seen x, []) := by
  induction l generalizing r with
  | nil =>
    obtain rfl : r = .reading b seen := by
      cases r <;> exact congrArg Prod.fst h
    cases hd : b.deliver parser seen x <;> simp [run, hd]
  | cons y rest ih =>
    cases r with
    | reading b' seen' => exact ih h
    | done => cases h

theorem Receiving.run_capacity (r : Receiving) (l : List Delivery) :
    (r.run parser l).1.buffer.capacity = r.buffer.capacity := by
  induction l generalizing r with
  | nil => cases r <;> rfl
  | cons y rest ih =>
    cases r with
    | reading b seen => exact (ih _).trans (Exchange.deliver_capacity b y)
    | done => rfl

/-- A receive leaves it to the reads how many bytes they may bring. -/
theorem Buffer.receive_capacity {b : Buffer} {q : Receiving} {rest : List Delivery}
    (h : (b.receive parser).run parser l = (q, rest)) : q.buffer.capacity = b.capacity := by
  have hrun := @Receiving.run_capacity parser (b.receive parser) l
  rw [h] at hrun
  exact hrun.trans (Exchange.handOver_capacity b)

/-- With the message the session keeps all bytes that its parser has left over. -/
theorem Session.Takes.kept (h : s.Takes parser l b (.ok m)) : s.isOpen = true ∧
    ∃ seen consumed, seen.flatten = s.buffer.unparsed ++ (l.filterMap Delivery.section?).flatten ∧
      parser seen = .complete consumed m ∧ b.unparsed = seen.flatten.drop consumed := by
  cases h with
  | received isOpen run =>
    refine ⟨isOpen, ?_⟩
    have hfaithful := @faithful_receive parser s.buffer l
    rw [run] at hfaithful
    cases hfaithful with
    | found undecided answer ends kept =>
      refine ⟨_, _, ?_, answer, kept⟩
      rw [seen_of_receive run, List.flatten_append, flatten_leftover]

end Takes

namespace Client
variable {c : Client} {sub : String} {found : Option SessionId} {id : SessionId} {x y : Shared}
variable {f : Shared → Shared}

/-- What is found under an id, and how a session is shared. -/
structure Keeps (c : Client) (sub : String) (found : Option SessionId) (id : SessionId) (x : Shared) :
    Prop where
  table : c.find? sub = found
  shared : c.sessions[id]? = some x

theorem Keeps.isTurn {s : Session} {k : CallId} {line : List CallId} {n : Nat}
    (h : c.Keeps sub found id ⟨s, k :: line, n⟩) : c.isTurn id k = true := by
  simp [isTurn_eq h.shared]

theorem Keeps.withShared (h : c.Keeps sub found id x) : (c.withShared id y).Keeps sub found id y :=
  ⟨h.table, sessions_withShared h.shared⟩

theorem Keeps.modify (h : c.Keeps sub found id x) : (c.modify id f).Keeps sub found id (f x) :=
  modify_eq h.shared f ▸ h.withShared

theorem lookup_filter_ne (l : List (String × SessionId)) :
    (l.filter (·.1 != sub)).lookup sub = none := by
  rw [List.lookup_eq_none_iff]
  intro e he
  exact bne_iff_ne.2 (bne_iff_ne.1 (List.mem_filter.1 he).2).symm

/-- After an id is taken out of the table nothing is found under it. -/
theorem Keeps.unlink (h : c.Keeps sub (some id) id x) :
    ∃ c', c.unlink? sub = some (id, c') ∧ c'.Keeps sub none id x := by
  refine ⟨{ c with subscriptions := c.subscriptions.filter (·.1 != sub) }, ?_, ?_, h.shared⟩
  · rw [unlink?, h.table, Option.map_some]
  · exact lookup_filter_ne _

end Client

/-- What a poll tells of what it has received. -/
def Poll.told (space : String) (p : Poll) (r : Except Error Message) : Notice :=
  .ofResult (r.bind (Notice.classify p.node space p.subscription))

/-- How far a poll has come that has this session to itself: what is found under its id, how the session
is shared, the reads that it has made, the connections that it has given up, and how it stands. -/
inductive Poll.Stage (parser : Parser) (space : String) (p : Poll) (k : CallId) (id : SessionId)
    (s : Session) :
    Option SessionId → Shared → List Delivery → List ConnId → CallStatus → Prop
  | looking : Stage parser space p k id s (some id) ⟨s, [], 1⟩ [] [] (.going (.looking p))
  | approaching :
    Stage parser space p k id s (some id) ⟨s, [], 2⟩ [] [] (.going (.approaching id (.poll p)))
  | waiting : Stage parser space p k id s (some id) ⟨s, [k], 2⟩ [] [] (.going (.waiting id (.poll p)))
  | reading {l b seen} (isOpen : s.isOpen = true)
    (run : (s.buffer.receive parser).run parser l = (.reading b seen, [])) :
    Stage parser space p k id s (some id) ⟨{ s with buffer := b }, [k], 2⟩ l []
      (.going (.acting id (.poll p) (.receiving seen)))
  | told {l b r} (takes : s.Takes parser l b r) (goesOn : (p.told space r).isLast = false) :
    Stage parser space p k id s (some id) ⟨{ s with buffer := b }, [], 1⟩ l []
      (.done (.notice (p.told space r)))
  | removing {l b r} (takes : s.Takes parser l b r) (last : (p.told space r).isLast = true) :
    Stage parser space p k id s (some id) ⟨{ s with buffer := b }, [], 1⟩ l []
      (.going (.removing p.subscription (.notify p (p.told space r))))
  | retiring {l b r} (takes : s.Takes parser l b r) (last : (p.told space r).isLast = true) :
    Stage parser space p k id s none ⟨{ s with buffer := b }, [], 1⟩ l []
      (.going (.approaching id (.retire p.subscription (.notify p (p.told space r)))))
  | queueing {l b r} (takes : s.Takes parser l b r) (last : (p.told space r).isLast = true) :
    Stage parser space p k id s none ⟨{ s with buffer := b }, [k], 1⟩ l []
      (.going (.waiting id (.retire p.subscription (.notify p (p.told space r)))))
  | ended {l b r} (takes : s.Takes parser l b r) (last : (p.told space r).isLast = true) :
    Stage parser space p k id s none ⟨{ s with buffer := b, isOpen := false }, [], 0⟩ l
      (if s.isOpen then [s.conn] else []) (.done (.notice (p.told space r)))

/-- How a poll stands with its client. -/
structure Poll.Stands (parser : Parser) (space : String) (p : Poll) (k : CallId) (id : SessionId)
    (s : Session) (c : Client) (l : List Delivery) (gone : List ConnId) (st : CallStatus) : Prop where
  exists_stage : ∃ found x, c.Keeps p.subscription found id x ∧
    Poll.Stage parser space p k id s found x l gone st

/-- How many steps of its own a poll is away from its end at most, besides its reads. -/
def Call.ahead : Call → Nat
  | looking _ => 7
  | approaching _ (.poll _) => 6
  | waiting _ (.poll _) => 5
  | acting .. => 4
  | removing .. => 3
  | approaching .. => 2
  | waiting .. => 1
  | _ => 0

def CallStatus.ahead : CallStatus → Nat
  | going call => call.ahead
  | done _ => 0

section Polls
variable {parser : Parser} {space : String} {p : Poll} {k : CallId} {id : SessionId} {s s' : Session}
variable {c c' : Client} {l : List Delivery} {gone : List ConnId} {st : CallStatus} {call : Call}
variable {b : Buffer} {seen : List Bytes} {r : Except Error Message}

/-- What is done elsewhere leaves a poll where it is. -/
theorem Poll.Stands.elsewhere (h : p.Stands parser space k id s c l gone st)
    (htable : c'.find? p.subscription = c.find? p.subscription)
    (hsession : c'.sessions[id]? = c.sessions[id]?) : p.Stands parser space k id s c' l gone st := by
  obtain ⟨found, x, hkeeps, hstage⟩ := h
  exact ⟨found, x, ⟨htable.trans hkeeps.table, hsession.trans hkeeps.shared⟩, hstage⟩

/-- After its one receive a poll leaves the session, and returns its notice unless it is the last. -/
theorem Poll.stands_conclude (hp : p.endless = false) (hspace : c.peer.space = space)
    (hk : c.Keeps p.subscription (some id) id ⟨s', [k], 2⟩) (ht : s.Takes parser l b r) :
    let x := Call.conclude c k id (.poll p) { s with buffer := b } (r.map some)
    p.Stands parser space k id s x.client l (closings (traffic x.events)) x.status := by
  have hr : ((r.map some).bind fun m => m.elim (.error Error.peerClosed) .ok) = r := by
    cases r <;> rfl
  obtain ⟨-, -, hev⟩ := polled_ofPoll hp space r
  have hstatus : (Call.polled space p r).1 =
      if (p.told space r).isLast then .going (.removing p.subscription (.notify p (p.told space r)))
      else .done (.notice (p.told space r)) := by
    simp only [Call.polled, Call.noted, notify_done hp]
    unfold Poll.told
    split <;> rfl
  simp only [Call.conclude, Client.put_leave_of_two hk.shared, Client.withShared_peer, Call.outcome, hr,
    hspace, hstatus, List.nil_append, hev]
  refine ⟨_, _, hk.withShared, ?_⟩
  cases hlast : (p.told space r).isLast with
  | true => exact .removing ht hlast
  | false => exact .told ht hlast

/-- What a poll makes of the sections that its parser has seen. -/
theorem Poll.stands_proceed (hp : p.endless = false) (hspace : c.peer.space = space)
    (hk : c.Keeps p.subscription (some id) id ⟨s', [k], 2⟩) (hopen : s.isOpen = true)
    {q : Receiving} (hrun : (s.buffer.receive parser).run parser l = (q, [])) :
    let x := Call.proceed c k id (.poll p) (Session.ofReceiving { s with buffer := b } q)
    p.Stands parser space k id s x.client l (closings (traffic x.events)) x.status := by
  cases q with
  | reading b' seen => exact ⟨_, _, hk.modify, .reading hopen hrun⟩
  | done b' seen r =>
    have hconclude := stands_conclude hp hspace hk (.received hopen hrun)
    cases r with
    | ok m => exact hconclude
    | error e => exact hconclude

theorem conclude_ahead (hp : p.endless = false) (r : Except Error (Option Message)) :
    (Call.conclude c k id (.poll p) s r).status.ahead ≤ 3 := by
  simp only [Call.conclude, Call.outcome, Call.polled, Call.noted, notify_done hp]
  split <;> simp [CallStatus.ahead, Call.ahead]

theorem proceed_ahead (hp : p.endless = false) (q : Session.Progress) :
    (Call.proceed c k id (.poll p) q).status.ahead ≤ 4 := by
  cases q with
  | busy s a => exact Nat.le_refl 4
  | _ => exact Nat.le_succ_of_le (conclude_ahead hp _)

theorem retire_ahead (hp : p.endless = false) {n : Notice} :
    (Call.embark parser c k id s (.retire p.subscription (.notify p n))).status.ahead = 0 := by
  simp [Call.embark, Step.after, Call.conclude, Call.outcome, Call.afterwards, notify_done hp,
    CallStatus.ahead]

/-- When its turn has come a poll receives, unless the session is closed. -/
theorem Poll.stands_receive (hp : p.endless = false) (hspace : c.peer.space = space)
    (hk : c.Keeps p.subscription (some id) id ⟨s, [k], 2⟩) :
    let x := Call.proceed c k id (.poll p) (s.receive parser).1
    p.Stands parser space k id s x.client [] (closings (traffic x.events)) x.status := by
  cases hopen : s.isOpen with
  | true =>
    have hrun : (s.buffer.receive parser).run parser [] = (s.buffer.receive parser, []) := by
      cases s.buffer.receive parser <;> rfl
    simp only [Session.receive, hopen, if_true]
    exact stands_proceed (b := s.buffer) hp hspace hk hopen hrun
  | false =>
    simp only [Session.receive, hopen, Bool.false_eq_true, if_false]
    exact stands_conclude (b := s.buffer) hp hspace hk (.refused hopen)

/-- After the last notice the session is closed, and the notice returned. -/
theorem Poll.stands_retire (hp : p.endless = false) (ht : s.Takes parser l b r)
    (hk : c.Keeps p.subscription none id ⟨{ s with buffer := b }, [k], 1⟩)
    (hlast : (p.told space r).isLast = true) :
    let x := Call.embark parser c k id { s with buffer := b }
      (.retire p.subscription (.notify p (p.told space r)))
    p.Stands parser space k id s x.client l (closings (traffic x.events)) x.status := by
  have hclose (s : Session) : s.close.1 = { s with isOpen := false } := by
    obtain ⟨conn, isOpen, buffer⟩ := s
    cases isOpen <;> rfl
  have hclosed : closings (traffic (Session.close { s with buffer := b }).2) =
      if s.isOpen then [s.conn] else [] := by
    unfold Session.close
    cases s.isOpen <;> rfl
  have hleave : (c.put id { s with buffer := b, isOpen := false }).leave id k =
      (c.withShared id ⟨{ s with buffer := b, isOpen := false }, [], 0⟩, []) :=
    Client.put_leave_of_one hk.shared rfl
  simp only [Call.embark, Step.after, Call.conclude, Call.outcome, Call.afterwards, notify_done hp,
    hclose, hleave, traffic_append, closings_append, hclosed]
  refine ⟨_, _, hk.withShared, ?_⟩
  simpa [closings] using Poll.Stage.ended ht hlast

/-- A step brings a poll further, unless it reads. -/
theorem Poll.Stands.step (hp : p.endless = false) (hspace : c.peer.space = space)
    (h : p.Stands parser space k id s c l gone (.going call)) :
    let x := call.step parser c k
    p.Stands parser space k id s x.client l (gone ++ closings (traffic x.events)) x.status ∧
      (x.status.ahead < call.ahead ∨ ∃ seen, call = .acting id (.poll p) (.receiving seen)) := by
  obtain ⟨found, x, hkeeps, hstage⟩ := h
  cases hstage with
  | looking =>
    simp only [Call.step, hkeeps.table]
    exact ⟨⟨_, _, hkeeps.modify, .approaching⟩, .inl (Nat.lt_succ_self 6)⟩
  | approaching => exact ⟨⟨_, _, hkeeps.modify, .waiting⟩, .inl (Nat.lt_succ_self 5)⟩
  | waiting =>
    have hreceive := @Poll.stands_receive parser space p k id s c hp hspace hkeeps
    have hahead := @proceed_ahead p k id c hp (s.receive parser).1
    simp only [Call.step, Client.session?_eq hkeeps.shared, hkeeps.isTurn, if_true, Call.embark, Step.after,
      traffic_append, closings_append]
    refine ⟨?_, .inl (Nat.lt_succ_of_le hahead)⟩
    simpa [closings] using hreceive
  | reading isOpen run => exact ⟨⟨_, _, hkeeps, .reading isOpen run⟩, .inr ⟨_, rfl⟩⟩
  | removing takes last =>
    obtain ⟨c', hunlink, hkeeps⟩ := hkeeps.unlink
    simp only [Call.step, hunlink]
    exact ⟨⟨_, _, hkeeps, .retiring takes last⟩, .inl (Nat.lt_succ_self 2)⟩
  | retiring takes last =>
    exact ⟨⟨_, _, hkeeps.modify, .queueing takes last⟩, .inl (Nat.lt_succ_self 1)⟩
  | @queueing l b' r' takes last =>
    have hretire := @Poll.stands_retire parser space p k id s c l b' r' hp takes hkeeps last
    simp only [Call.step, Client.session?_eq hkeeps.shared, hkeeps.isTurn, if_true, List.nil_append]
    refine ⟨hretire, .inl ?_⟩
    rw [retire_ahead hp]
    exact Nat.zero_lt_one

/-- What a read brings goes to the parser. -/
theorem Poll.stands_read (hp : p.endless = false) (hspace : c.peer.space = space)
    (hk : c.Keeps p.subscription (some id) id ⟨{ s with buffer := b }, [k], 2⟩)
    (hopen : s.isOpen = true)
    (hrun : (s.buffer.receive parser).run parser l = (.reading b seen, [])) (y : Delivery) :
    let call := Call.acting id (.poll p) (.receiving seen)
    let x := call.resume parser c k y.answer
    call.said? c k y.answer = some (.read s.conn b.capacity, y.answer) ∧
      p.Stands parser space k id s x.client (l ++ [y]) (closings (traffic x.events)) x.status ∧
      x.status.ahead ≤ call.ahead ∧ (y.section? = none → x.status.ahead < call.ahead) := by
  intro call x
  have hproceed := Poll.stands_proceed (b := b) hp hspace hk hopen (Receiving.run_snoc (x := y) hrun)
  have hahead := @proceed_ahead p k id c hp
    (Session.ofReceiving { s with buffer := b } (b.deliver parser seen y))
  have hresume : (Session.resume parser { s with buffer := b } (.receiving seen) y.answer).1 =
      Session.ofReceiving { s with buffer := b } (b.deliver parser seen y) := by
    cases y <;> rfl
  have hx : x = (Call.proceed c k id (.poll p)
      (Session.ofReceiving { s with buffer := b } (b.deliver parser seen y))).after
      ((Session.demand { s with buffer := b } (.receiving seen)).events y.answer ++
        (Session.resume parser { s with buffer := b } (.receiving seen) y.answer).2) := by
    simp only [x, call, Call.resume, Client.session?_eq hk.shared, hresume]
  have hend (hy : y.section? = none) : ∃ e, b.deliver parser seen y = .done b seen (.error e) := by
    cases y with
    | failed reason => exact ⟨_, rfl⟩
    | bytes z =>
      cases z with
      | nil => exact ⟨_, rfl⟩
      | cons => cases hy
  refine ⟨?_, ?_, ?_, fun hy => ?_⟩
  · simp [call, Call.said?, Call.need, Client.session?_eq hk.shared, Session.demand, Exchange.isSome_read]
  · simpa [hx, Step.after, (record_act (.receiving seen) y.answer).2] using hproceed
  · rw [hx]
    exact hahead
  · obtain ⟨e, he⟩ := hend hy
    have hconclude := @conclude_ahead p k id { s with buffer := b } c hp (.error e)
    rw [hx, he]
    exact Nat.lt_succ_of_le hconclude

/-- An answer to a read goes to the parser. Any other answer changes nothing. -/
theorem Poll.Stands.resume (hp : p.endless = false) (hspace : c.peer.space = space)
    (h : p.Stands parser space k id s c l gone (.going call)) (a : Answer) :
    let x := call.resume parser c k a
    (call.said? c k a = none ∧
        p.Stands parser space k id s x.client l (gone ++ closings (traffic x.events)) x.status) ∨
      ∃ y : Delivery, a = y.answer ∧
        call.said? c k a = some (.read s.conn s.buffer.capacity, y.answer) ∧
        p.Stands parser space k id s x.client (l ++ [y]) (gone ++ closings (traffic x.events))
          x.status ∧
        x.status.ahead ≤ call.ahead ∧ (y.section? = none → x.status.ahead < call.ahead) := by
  obtain ⟨found, x, hkeeps, hstage⟩ := h
  cases hstage with
  | @reading l b seen isOpen run =>
    have hcap : b.capacity = s.buffer.capacity := Buffer.receive_capacity run
    have hread (y : Delivery) := Poll.stands_read hp hspace hkeeps isOpen run y
    cases a with
    | delivered bytes => exact .inr ⟨.bytes bytes, rfl, hcap ▸ hread (.bytes bytes)⟩
    | failed reason => exact .inr ⟨.failed reason, rfl, hcap ▸ hread (.failed reason)⟩
    | connected | accepted | done =>
      left
      simp only [Call.said?, Call.need, Call.resume, Client.session?_eq hkeeps.shared]
      exact ⟨rfl, ⟨_, _, hkeeps.modify, .reading isOpen run⟩⟩
  | looking => exact .inl ⟨rfl, ⟨_, _, hkeeps, .looking⟩⟩
  | approaching => exact .inl ⟨rfl, ⟨_, _, hkeeps, .approaching⟩⟩
  | waiting => exact .inl ⟨by simp [Call.said?, Call.need, hkeeps.isTurn], ⟨_, _, hkeeps, .waiting⟩⟩
  | removing takes last => exact .inl ⟨rfl, ⟨_, _, hkeeps, .removing takes last⟩⟩
  | retiring takes last => exact .inl ⟨rfl, ⟨_, _, hkeeps, .retiring takes last⟩⟩
  | queueing takes last =>
    exact .inl ⟨by simp [Call.said?, Call.need, hkeeps.isTurn],
      ⟨_, _, hkeeps, .queueing takes last⟩⟩

end Polls

namespace Desk

/-- Whether a subscription is left to one call: whatever others do leaves its entry in the table as it is,
and the session that was found there at first. -/
def LeavesTo (d : Desk) (k : CallId) (sub : String) (moves : List Move) : Prop :=
  ∀ before mv after, moves = before ++ mv :: after → (d.moveAll before).deed? k mv = none →
    ((d.moveAll before).move mv).client.find? sub = (d.moveAll before).client.find? sub ∧
      ∀ id, d.client.find? sub = some id →
        ((d.moveAll before).move mv).client.sessions[id]? =
          (d.moveAll before).client.sessions[id]?

section Runs
variable {d : Desk} {k : CallId} {node sub : String} {moves pre rest : List Move} {mv : Move}
variable {id : SessionId} {s : Session} {call : Call} {p : Poll} {l more : List Delivery}
variable {gone : List ConnId} {st : CallStatus} {b : Buffer} {r : Except Error Message}

theorem LeavesTo.left (h : d.LeavesTo k sub (pre ++ rest)) : d.LeavesTo k sub pre := by
  rintro before mv after rfl hmv
  exact h before mv (after ++ rest) (by simp) hmv

/-- A call that alone moves has its subscription to itself. -/
theorem leavesTo_alone (h : (d.deeds k moves).length = moves.length) : d.LeavesTo k sub moves := by
  have hle (d : Desk) (l : List Move) : (d.deeds k l).length ≤ l.length := by
    induction l generalizing d with
    | nil => exact Nat.le_refl 0
    | cons mv rest ih =>
      have hone : (d.deed? k mv).toList.length ≤ 1 := by
        cases d.deed? k mv <;> simp
      simpa [deeds, Nat.add_comm] using Nat.add_le_add hone (ih (d.move mv))
  rintro before mv after rfl hmv
  have hbefore := hle d before
  have hafter := hle ((d.moveAll before).move mv) after
  simp only [deeds_append, deeds, hmv, Option.toList_none, List.nil_append, List.length_append,
    List.length_cons] at h
  omega

/-- Before a call does anything, its subscription is as it was at first. -/
theorem LeavesTo.idle (h : d.LeavesTo k sub pre) (hidle : d.deeds k pre = []) :
    (d.moveAll pre).client.find? sub = d.client.find? sub ∧
      ∀ id, d.client.find? sub = some id →
        (d.moveAll pre).client.sessions[id]? = d.client.sessions[id]? := by
  induction pre using List.reverseRecOn with
  | nil => exact ⟨rfl, fun _ _ => rfl⟩
  | append_singleton pre mv ih =>
    rw [deeds_snoc, List.append_eq_nil_iff, Option.toList_eq_nil_iff] at hidle
    obtain ⟨htable, hsession⟩ := ih h.left hidle.1
    obtain ⟨htable', hsession'⟩ := h pre mv [] rfl hidle.2
    rw [moveAll_append, moveAll_cons, moveAll_nil]
    exact ⟨htable'.trans htable, fun id hid => (hsession' id hid).trans (hsession id hid)⟩

theorem Stands.client_step (h : d.Stands k (.going call)) :
    (d.move (.step k)).client = (call.step d.codec.parser d.client k).client :=
  (deed?_clients h.step.1).2.symm

theorem Stands.client_resume (h : d.Stands k (.going call)) (a : Answer) :
    (d.move (.resume k a)).client = (call.resume d.codec.parser d.client k a).client :=
  (deed?_clients (h.resume a).1).2.symm

theorem peer_move (d : Desk) (mv : Move) : (d.move mv).client.peer = d.client.peer :=
  (edits_move d mv).peer

/-- A poll that is given the reads that it needs comes to its end by moves of its own. -/
theorem Stands.returns (hst : d.Stands k st) (hp : p.endless = false)
    (h : p.Stands d.codec.parser d.client.peer.space k id s d.client l gone st)
    (ht : s.Takes d.codec.parser (l ++ more) b r) :
    ∃ own : List Move, (∀ mv ∈ own, mv.caller? = some k) ∧
      ∃ n, (d.moveAll own).Returned k (.notice n) := by
  induction hn : more.length + st.ahead using Nat.strongRecOn
    generalizing d l gone st more with
  | _ n ih =>
    subst hn
    -- Each move of its own leaves fewer reads, or fewer steps, to be made.
    have hgo (mv : Move) (hmv : mv.caller? = some k) {l' gone' st'} (more')
        (hst' : (d.move mv).Stands k st')
        (h' : p.Stands d.codec.parser d.client.peer.space k id s (d.move mv).client l' gone' st')
        (hl : l' ++ more' = l ++ more)
        (hless : more'.length + st'.ahead < more.length + st.ahead) :
        ∃ own : List Move, (∀ mv ∈ own, mv.caller? = some k) ∧
          ∃ n, (d.moveAll own).Returned k (.notice n) := by
      obtain ⟨own, hown, n, hn⟩ := ih _ hless hst' (by simpa [peer_move] using h')
        (by simpa [hl] using ht) rfl
      exact ⟨mv :: own, List.forall_mem_cons.2 ⟨hmv, hown⟩, n, hn⟩
    cases st with
    | done r' =>
      obtain ⟨found, x, -, hstage⟩ := h
      obtain ⟨n, rfl⟩ : ∃ n, r' = .notice n := by
        cases hstage <;> exact ⟨_, rfl⟩
      exact ⟨[], by simp, n, hst.returned_iff.2 rfl⟩
    | going call =>
      obtain ⟨hstep, hless | ⟨seen, rfl⟩⟩ := h.step hp rfl
      · refine hgo (.step k) rfl more hst.step.2 (hst.client_step ▸ hstep) rfl ?_
        exact Nat.add_lt_add_left hless _
      · obtain ⟨found, x, hkeeps, hstage⟩ := h
        cases hstage with
        | reading isOpen run =>
          cases more with
          | nil =>
            rw [List.append_nil] at ht
            cases ht with
            | refused closed => simp [isOpen] at closed
            | received _ run' => simp [run] at run'
          | cons y more =>
            obtain ⟨-, hread, hahead, -⟩ := Poll.stands_read hp rfl hkeeps isOpen run y
            refine hgo (.resume k y.answer) rfl more (hst.resume _).2
              ((hst.client_resume _).symm ▸ hread) (by simp) ?_
            have hsame : (CallStatus.going (.acting id (.poll p) (.receiving seen))).ahead =
              (Call.acting id (.poll p) (.receiving seen)).ahead := rfl
            simp only [List.length_cons, hsame]
            omega

/-- How a poll that has a session to itself stands after these deeds. -/
def Polls (d : Desk) (k : CallId) (p : Poll) (id : SessionId) (s : Session) (pre : List Move)
    (deeds : List Deed) (st : CallStatus) : Prop :=
  ∃ l, deeds.filterMap (·.said) = reads s.conn s.buffer.capacity l ∧
    p.Stands d.codec.parser d.client.peer.space k id s (d.moveAll pre).client l
      (closings (SpaceGateway.traffic (deeds.flatMap (·.seen)))) st

variable {deeds : List Deed}

theorem Polls.step (hp : p.endless = false) (hst : (d.moveAll pre).Stands k (.going call))
    (h : d.Polls k p id s pre deeds (.going call)) :
    let x := call.step d.codec.parser (d.moveAll pre).client k
    d.Polls k p id s (pre ++ [.step k]) (deeds ++ [.ofStep (d.moveAll pre).client none x])
      x.status := by
  obtain ⟨l, hsaid, hstands⟩ := h
  have hclient := hst.client_step
  rw [codec_moveAll] at hclient
  obtain ⟨hnext, -⟩ := hstands.step hp (peer_moveAll d pre ▸ rfl)
  refine ⟨l, by simpa [Deed.ofStep] using hsaid, ?_⟩
  simpa [Deed.ofStep, hclient] using hnext

theorem Polls.resume (hp : p.endless = false) (hst : (d.moveAll pre).Stands k (.going call))
    (h : d.Polls k p id s pre deeds (.going call)) (a : Answer) :
    let x := call.resume d.codec.parser (d.moveAll pre).client k a
    d.Polls k p id s (pre ++ [.resume k a])
      (deeds ++ [.ofStep (d.moveAll pre).client (call.said? (d.moveAll pre).client k a) x])
      x.status := by
  obtain ⟨l, hsaid, hstands⟩ := h
  have hclient := hst.client_resume a
  rw [codec_moveAll] at hclient
  rcases hstands.resume hp (peer_moveAll d pre ▸ rfl) a with ⟨hnone, hnext⟩ | ⟨y, rfl, hread, hnext, -⟩
  · refine ⟨l, by simpa [Deed.ofStep, hnone] using hsaid, ?_⟩
    simpa [Deed.ofStep, hclient] using hnext
  · refine ⟨l ++ [y], by simp [Deed.ofStep, hread, hsaid, reads], ?_⟩
    simpa [Deed.ofStep, hclient] using hnext

/-- What the start of a poll brings about, and its own moves keep as well as all that leaves its entry and
its session as they are, holds at the end of every run that leaves its subscription to it. -/
theorem Makes.follow_left {P : List Move → List Deed → CallStatus → Prop} {command : Command}
    (hm : d.Makes k command moves) (hs : d.LeavesTo k sub moves)
    (hcall : Call.ofCommand d.codec d.client.peer command = .ok (.looking p))
    (starts : ∀ pre, (d.moveAll pre).client.find? sub = d.client.find? sub →
      (∀ id, d.client.find? sub = some id →
        (d.moveAll pre).client.sessions[id]? = d.client.sessions[id]?) →
      P pre [.ofStep (d.moveAll pre).client none
        ((Call.looking p).begin (d.moveAll pre).client)] (.going (.looking p)))
    (steps : ∀ pre l call, (d.moveAll pre).Stands k (.going call) → P pre l (.going call) →
      let x := call.step d.codec.parser (d.moveAll pre).client k
      P (pre ++ [.step k]) (l ++ [.ofStep (d.moveAll pre).client none x]) x.status)
    (resumes : ∀ pre l call a, (d.moveAll pre).Stands k (.going call) → P pre l (.going call) →
      let x := call.resume d.codec.parser (d.moveAll pre).client k a
      P (pre ++ [.resume k a]) (l ++ [.ofStep (d.moveAll pre).client
        (call.said? (d.moveAll pre).client k a) x]) x.status)
    (others : ∀ pre l st mv,
      (d.moveAll (pre ++ [mv])).client.find? sub = (d.moveAll pre).client.find? sub →
      (∀ id, d.client.find? sub = some id → (d.moveAll (pre ++ [mv])).client.sessions[id]? =
        (d.moveAll pre).client.sessions[id]?) →
      P pre l st → P (pre ++ [mv]) l st) :
    ∃ st, P moves (d.deeds k moves) st ∧ (d.moveAll moves).Stands k st := by
  -- Only of the moves of this run is it known that they leave the subscription alone.
  have hrun := hm.follow (P := fun pre deeds st => pre <+: moves → P pre deeds st) ?_ ?_ ?_ ?_
  · obtain ⟨st, hP, hst⟩ := hrun
    exact ⟨st, hP List.prefix_rfl, hst⟩
  · intro pre hunused hidle
    have hbuilt : Call.ofCommand (d.moveAll pre).codec (d.moveAll pre).client.peer command =
        .ok (.looking p) := by
      simpa using hcall
    obtain ⟨hx, hst⟩ := start_built hbuilt hunused
    have hclient : (d.moveAll (pre ++ [.start k command])).client = (d.moveAll pre).client := by
      rw [moveAll_append]
      exact (deed?_clients hx).2.symm
    refine ⟨_, _, hx, hst, ?_⟩
    rintro ⟨rest, rfl⟩
    obtain ⟨htable, hsession⟩ := hs.left.left.idle hidle
    rw [← hclient] at htable hsession ⊢
    exact starts _ htable hsession
  · intro pre l call hst hP x hpre
    exact steps pre l call hst (hP ((List.prefix_append _ _).trans hpre))
  · intro pre l call a hst hP x hpre
    exact resumes pre l call a hst (hP ((List.prefix_append _ _).trans hpre))
  · rintro pre l st mv hnone hP ⟨rest, rfl⟩
    obtain ⟨htable, hsession⟩ := hs pre mv rest (by simp) hnone
    refine others pre l st mv ?_ ?_ (hP ⟨mv :: rest, by simp⟩)
    · rwa [moveAll_append]
    · rwa [moveAll_append]

/-- The course of a poll that has a session to itself. -/
theorem Makes.polls (hm : d.Makes k (.next node sub) moves) (hs : d.LeavesTo k sub moves)
    (hfound : d.client.find? sub = some id)
    (hshared : d.client.sessions[id]? = some { session := s }) :
    ∃ st, d.Polls k ⟨node, sub, false⟩ id s moves (d.deeds k moves) st ∧
      (d.moveAll moves).Stands k st := by
  refine hm.follow_left hs rfl ?_ (fun _ _ _ hst hP => hP.step rfl hst)
    (fun _ _ _ a hst hP => hP.resume rfl hst a) ?_
  · intro pre htable hsession
    exact ⟨[], rfl, some id, ⟨s, [], 1⟩,
      ⟨htable.trans hfound, (hsession id hfound).trans hshared⟩, .looking⟩
  · rintro pre l st mv htable hsession ⟨made, hsaid, hstands⟩
    exact ⟨made, hsaid, hstands.elsewhere htable (hsession id hfound)⟩

/-- How a poll stands that finds no session. -/
structure Idles (d : Desk) (node sub : String) (pre : List Move) (deeds : List Deed)
    (st : CallStatus) : Prop where
  nothing : ∀ x ∈ deeds, x.after = x.before ∧ x.said = none ∧ x.seen = []
  unknown : (d.moveAll pre).client.find? sub = none
  status : st = .going (.looking ⟨node, sub, false⟩) ∨
    st = .done (.notice (.failed (.subscriptionNotFound sub)))

theorem Idles.step (hst : (d.moveAll pre).Stands k (.going call))
    (h : d.Idles node sub pre deeds (.going call)) :
    let x := call.step d.codec.parser (d.moveAll pre).client k
    d.Idles node sub (pre ++ [.step k]) (deeds ++ [.ofStep (d.moveAll pre).client none x])
      x.status := by
  obtain ⟨hnothing, hunknown, ⟨⟨⟩⟩ | ⟨⟨⟩⟩⟩ := h
  have hx : (Call.looking ⟨node, sub, false⟩).step d.codec.parser (d.moveAll pre).client k =
      ⟨(d.moveAll pre).client, .done (.notice (.failed (.subscriptionNotFound sub))), []⟩ := by
    simp [Call.step, hunknown, Call.notify]
  have hclient := hst.client_step
  rw [codec_moveAll, hx] at hclient
  rw [hx]
  refine ⟨?_, by simpa [hclient] using hunknown, .inr rfl⟩
  exact List.forall_mem_append.2 ⟨hnothing, List.forall_mem_singleton.2 ⟨rfl, rfl, rfl⟩⟩

theorem Idles.resume (hst : (d.moveAll pre).Stands k (.going call))
    (h : d.Idles node sub pre deeds (.going call)) (a : Answer) :
    let x := call.resume d.codec.parser (d.moveAll pre).client k a
    d.Idles node sub (pre ++ [.resume k a])
      (deeds ++ [.ofStep (d.moveAll pre).client (call.said? (d.moveAll pre).client k a) x])
      x.status := by
  obtain ⟨hnothing, hunknown, ⟨⟨⟩⟩ | ⟨⟨⟩⟩⟩ := h
  have hclient := hst.client_resume a
  refine ⟨?_, by simpa [hclient, Call.resume] using hunknown, .inl rfl⟩
  exact List.forall_mem_append.2 ⟨hnothing, List.forall_mem_singleton.2 ⟨rfl, rfl, rfl⟩⟩

/-- The course of a poll that finds no session. -/
theorem Makes.idles (hm : d.Makes k (.next node sub) moves) (hs : d.LeavesTo k sub moves)
    (hunknown : d.client.find? sub = none) :
    ∃ st, d.Idles node sub moves (d.deeds k moves) st ∧ (d.moveAll moves).Stands k st := by
  refine hm.follow_left hs rfl ?_ (fun _ _ _ hst hP => hP.step hst)
    (fun _ _ _ a hst hP => hP.resume hst a) ?_
  · intro pre htable _
    exact ⟨by simp [Deed.ofStep, Call.begin], htable.trans hunknown, .inl rfl⟩
  · rintro pre l st mv htable _ ⟨hnothing, hunknown, hst⟩
    exact ⟨hnothing, htable.trans hunknown, hst⟩

/-- What a poll comes to of which the subscription is not registered. -/
structure Misses (d : Desk) (k : CallId) (sub : String) (moves : List Move) : Prop where
  nothing : ∀ x ∈ d.deeds k moves, x.after = x.before ∧ x.said = none ∧ x.seen = []
  returned : ∀ r, (d.moveAll moves).Returned k r →
    r = .notice (.failed (.subscriptionNotFound sub))
  /-- It needs one step. -/
  returns : (d.moveAll (moves ++ [.step k])).Returned k (.notice (.failed (.subscriptionNotFound sub)))

/-- What a poll comes to that has returned a notice of what one receive has brought. -/
structure Settles (d : Desk) (k : CallId) (node sub : String) (id : SessionId) (s : Session)
    (moves : List Move) (l : List Delivery) (b : Buffer) (x : Except Error Message) (n : Notice) :
    Prop where
  dialogue : d.dialogue k moves = reads s.conn s.buffer.capacity l
  takes : s.Takes d.codec.parser l b x
  notice : Notice.MadeOf node d.client.peer.space sub x n
  /-- An indication leaves the subscription registered and its session open, with all bytes that the
  message has left over. -/
  stays : n.isLast = false →
    (d.moveAll moves).client.find? sub = some id ∧
    (d.moveAll moves).client.sessions[id]? = some { session := { s with buffer := b } } ∧
    s.isOpen = true ∧ closings (d.traffic k moves) = [] ∧
    ∃ m seen consumed, x = .ok m ∧
      seen.flatten = s.buffer.unparsed ++ (l.filterMap Delivery.section?).flatten ∧
      d.codec.parser seen = .complete consumed m ∧ b.unparsed = seen.flatten.drop consumed
  /-- Any other notice removes the subscription and closes its session. -/
  ends : n.isLast = true →
    (d.moveAll moves).client.find? sub = none ∧
    (d.moveAll moves).client.session? id = some { s with buffer := b, isOpen := false } ∧
    closings (d.traffic k moves) = if s.isOpen then [s.conn] else []

/-- What a poll comes to that has a session to itself. -/
structure Hears (d : Desk) (k : CallId) (node sub : String) (id : SessionId) (s : Session)
    (moves : List Move) : Prop where
  returned : ∀ r, (d.moveAll moves).Returned k r →
    ∃ l b x n, r = .notice n ∧ d.Settles k node sub id s moves l b x n
  /-- It needs no more than the reads of its one receive. -/
  returns : ∃ l, d.dialogue k moves = reads s.conn s.buffer.capacity l ∧
    ∀ more b x, s.Takes d.codec.parser (l ++ more) b x →
      ∃ own : List Move, (∀ mv ∈ own, mv.caller? = some k) ∧
        ∃ n, (d.moveAll (moves ++ own)).Returned k (.notice n)

theorem Makes.misses (hm : d.Makes k (.next node sub) moves) (hs : d.LeavesTo k sub moves)
    (hunknown : d.client.find? sub = none) : d.Misses k sub moves := by
  obtain ⟨st, ⟨hnothing, hunknown, hstatus⟩, hst⟩ := hm.idles hs hunknown
  refine ⟨hnothing, fun r hr => ?_, ?_⟩
  · rw [hst.returned_iff] at hr
    rcases hstatus with rfl | rfl
    · cases hr
    · cases hr
      rfl
  · rw [moveAll_append]
    rcases hstatus with rfl | rfl
    · refine hst.step.2.returned_iff.2 ?_
      simp [Call.step, hunknown, Call.notify]
    · exact (hst.returned_iff.2 rfl).moveAll

/-- A poll that has returned has settled what becomes of its subscription. -/
theorem Polls.settles {result : CallResult}
    (h : d.Polls k ⟨node, sub, false⟩ id s moves (d.deeds k moves) (.done result)) :
    ∃ l b x n, result = .notice n ∧ d.Settles k node sub id s moves l b x n := by
  obtain ⟨l, hsaid, found, shared, hkeeps, hstage⟩ := h
  generalize hgone : closings (SpaceGateway.traffic ((d.deeds k moves).flatMap (·.seen))) = gone
    at hstage
  cases hstage with
  | @told l b x takes goesOn =>
    refine ⟨l, b, x, _, rfl, hsaid, takes, madeOf_classify .., fun _ => ?_, fun hlast => ?_⟩
    · cases x with
      | error e => cases goesOn
      | ok m =>
        obtain ⟨hopen, seen, consumed, hseen, hanswer, hkept⟩ := takes.kept
        exact ⟨hkeeps.table, hkeeps.shared, hopen, hgone, m, seen, consumed, rfl, hseen, hanswer,
          hkept⟩
    · cases goesOn.symm.trans hlast
  | @ended l b x takes last =>
    refine ⟨l, b, x, _, rfl, hsaid, takes, madeOf_classify .., fun hgoes => ?_, fun _ => ?_⟩
    · cases last.symm.trans hgoes
    · exact ⟨hkeeps.table, Client.session?_eq hkeeps.shared, hgone⟩

/-- A poll for one notice of a subscription that is left to it. -/
theorem poll_left_alone (hm : d.Makes k (.next node sub) moves) (hs : d.LeavesTo k sub moves) :
    (d.client.find? sub = none → d.Misses k sub moves) ∧
      ∀ id s, d.client.find? sub = some id → d.client.sessions[id]? = some { session := s } →
        d.Hears k node sub id s moves := by
  refine ⟨hm.misses hs, fun id s hfound hshared => ?_⟩
  obtain ⟨st, hpolls, hst⟩ := hm.polls hs hfound hshared
  refine ⟨fun r hr => ?_, ?_⟩
  · rw [hst.returned_iff] at hr
    subst hr
    exact hpolls.settles
  · obtain ⟨l, hsaid, hstands⟩ := hpolls
    refine ⟨l, hsaid, fun more b x ht => ?_⟩
    rw [← codec_moveAll d moves] at hstands ht
    rw [← peer_moveAll d moves] at hstands
    simpa using hst.returns rfl hstands ht

/-- A registered subscription, and a codec for which every byte is an indication of it. -/
def indicated : Desk where
  codec := ⟨fun _ => .ok [], fun _ => .complete 1
    { transaction := .subscribe, role := .indication, node := "node", space := "space"
      subscription := some "S", sequence := some 7 }⟩
  client :=
    { peer := ⟨"Space", ⟨"host", 1⟩, 64⟩
      sessions := [{ session := { conn := 3, buffer := { capacity := 64 } } }]
      subscriptions := [("s", 0)] }

/-- A poll whose read brings an indication and one byte more. -/
def polling : List Move :=
  [.start 1 (.next "NODE" "s"), .step 1, .step 1, .step 1, .resume 1 (.delivered [0, 5])]

theorem poll_left_alone_of_indication :
    indicated.Makes 1 (.next "NODE" "s") polling ∧ indicated.LeavesTo 1 "s" polling ∧
      indicated.client.find? "s" = some 0 ∧
      indicated.Hears 1 "NODE" "s" 0 { conn := 3, buffer := { capacity := 64 } } polling := by
  have hm : indicated.Makes 1 (.next "NODE" "s") polling := by
    refine ⟨⟨rfl, ?_⟩, rfl⟩
    rintro r ⟨x, hx, -⟩
    cases hx
  have hs : indicated.LeavesTo 1 "s" polling := leavesTo_alone (by decide +kernel)
  exact ⟨hm, hs, rfl, (poll_left_alone hm hs).2 0 _ rfl rfl⟩

/-- The byte is kept for the next poll. -/
example : ((indicated.moveAll polling).client.session? 0).map (·.buffer.unparsed) = some [5] := by
  decide +kernel

end Runs
end Desk

end SpaceGateway
