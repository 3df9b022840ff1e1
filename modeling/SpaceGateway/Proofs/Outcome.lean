import SpaceGateway.Proofs.Dialogue
/-!
What an exchange comes to, told from the dialogue with its connection: it connects, sends all of the
request, closes the sending direction and receives the first message. The first of these that fails
ends it.
-/
namespace SpaceGateway

/-- Sending all of some bytes on a connection, or as many as it takes. -/
inductive Sends (c : ConnId) : Bytes → Dialogue → Except Error Unit → Prop
  | flushed : Sends c [] [(.flush c, .done)] (.ok ())
  | unflushed (reason) : Sends c [] [(.flush c, .failed reason)] (.error (.sendFailed reason))
  | wrote {b n ds r} (some : b ≠ []) (rest : Sends c (b.drop (n + 1)) ds r) :
    Sends c b ((.write c b, .accepted (n + 1)) :: ds) r
  | stuck {b} (some : b ≠ []) :
    Sends c b [(.write c b, .accepted 0)] (.error (.sendFailed "write zero"))
  | unwritten {b} (some : b ≠ []) (reason) :
    Sends c b [(.write c b, .failed reason)] (.error (.sendFailed reason))

def Delivery.answer : Delivery → Answer
  | bytes b => .delivered b
  | failed reason => .failed reason

/-- Reads on a connection, and what they bring. -/
def reads (c : ConnId) (most : Nat) (deliveries : List Delivery) : Dialogue :=
  deliveries.map fun d => (.read c most, d.answer)

/-- Receiving the first message on a connection, with as many reads as that takes. -/
def ReceivesFirst (parser : Parser) (c : ConnId) (most : Nat) (ds : Dialogue)
    (r : Except Error Message) : Prop :=
  ∃ deliveries b seen, ds = reads c most deliveries ∧
    Receiving.run parser (.reading { capacity := most } []) deliveries = (.done b seen r, [])

namespace Exchange

/-- An exchange with a peer from its beginning to its end. -/
inductive Brings (parser : Parser) (peer : Peer) (request : Bytes) :
    Dialogue → Except Error Message → Prop
  | unconnected (reason) : Brings parser peer request [(.connect peer.address, .failed reason)]
    (.error (.connectFailed peer.address.text reason))
  | unsent {c ds e} (sends : Sends c request ds (.error e)) :
    Brings parser peer request ((.connect peer.address, .connected c) :: ds) (.error e)
  | unfinished {c ds} (sends : Sends c request ds (.ok ())) (reason) :
    Brings parser peer request
      ((.connect peer.address, .connected c) :: (ds ++ [(.finish c, .failed reason)]))
      (.error (.sendFailed reason))
  | received {c ds ds' r} (sends : Sends c request ds (.ok ()))
    (receives : ReceivesFirst parser c peer.receiveBuffer ds' r) :
    Brings parser peer request
      ((.connect peer.address, .connected c) :: (ds ++ (.finish c, .done) :: ds')) r

/-- What an exchange that is over has brought. -/
def Progress.result? : Progress → Option (Except Error Message)
  | failed e => some (.error e)
  | answered m | kept m _ => some (.ok m)
  | busy _ | connected _ | told => none

/-- How far an exchange comes by a dialogue. None if this is no dialogue of it. -/
def run (parser : Parser) (peer : Peer) (purpose : Purpose) (request : Bytes) :
    Exchange → Dialogue → Option Progress
  | x, [] => some (.busy x)
  | x, (d, a) :: rest =>
    if d = x.demand peer ∧ (d.record? a).isSome then
      match (x.resume parser peer purpose request a).1 with
      | .busy x' => run parser peer purpose request x' rest
      | p => if rest = [] then some p else none
    else none

/-- Whether an exchange ends by a dialogue, and with what. -/
def Ends (parser : Parser) (peer : Peer) (purpose : Purpose) (request : Bytes) (x : Exchange)
    (ds : Dialogue) (r : Except Error Message) : Prop :=
  (run parser peer purpose request x ds).bind Progress.result? = some r

section Runs
variable {parser : Parser} {peer : Peer} {purpose : Purpose} {request : Bytes} {x x' : Exchange}
variable {d : Demand} {a : Answer} {ds rest : Dialogue} {r r' : Except Error Message} {p : Progress}

theorem run_busy (ha : ((x.demand peer).record? a).isSome = true)
    (hp : (x.resume parser peer purpose request a).1 = .busy x') :
    run parser peer purpose request x ((x.demand peer, a) :: rest) =
      run parser peer purpose request x' rest := by
  simp [run, ha, hp]

theorem not_ends_nil : ¬ Ends parser peer purpose request x [] r := by
  simp [Ends, run, Progress.result?]

/-- An exchange that is not over by an answer goes on. -/
theorem ends_busy (ha : ((x.demand peer).record? a).isSome = true)
    (hp : (x.resume parser peer purpose request a).1 = .busy x') :
    Ends parser peer purpose request x ((x.demand peer, a) :: rest) r ↔
      Ends parser peer purpose request x' rest r := by
  rw [Ends, Ends, run_busy ha hp]

theorem ends_over (ha : ((x.demand peer).record? a).isSome = true)
    (hp : (x.resume parser peer purpose request a).1 = p) (hr : p.result? = some r') :
    Ends parser peer purpose request x ((x.demand peer, a) :: rest) r ↔ rest = [] ∧ r = r' := by
  have hbusy : ∀ x', p ≠ .busy x' := by
    rintro x' rfl
    cases hr
  simp only [Ends, run, ha, hp]
  cases p with
  | busy x' => exact (hbusy x' rfl).elim
  | connected | told => cases hr
  | failed | answered | kept =>
    cases rest with
    | nil => simp [hr, eq_comm]
    | cons => simp

/-- The first thing that is said in an exchange is what it asks. -/
theorem Ends.demand (h : Ends parser peer purpose request x ((d, a) :: rest) r) :
    d = x.demand peer ∧ (d.record? a).isSome = true := by
  unfold Ends run at h
  split at h
  · assumption
  · cases h

end Runs

section Receiving
variable {parser : Parser} {peer : Peer} {purpose : Purpose} {request : Bytes} {s : Session}
variable {seen : List Bytes} {d : Demand} {a : Answer} {ds rest : Dialogue}
variable {r : Except Error Message} {c : ConnId} {most : Nat}

theorem handOver_capacity (b : Buffer) : (b.handOver parser seen).buffer.capacity = b.capacity := by
  unfold Buffer.handOver
  split
  · rfl
  · dsimp only
    split
    · split <;> rfl
    · rfl
    · rfl

theorem deliver_capacity (b : Buffer) (x : Delivery) :
    (b.deliver parser seen x).buffer.capacity = b.capacity := by
  cases x with
  | failed => rfl
  | bytes y =>
    cases y with
    | nil => rfl
    | cons => exact handOver_capacity _

/-- What an exchange makes of a read. -/
theorem resume_read (x : Delivery) :
    (resume parser peer purpose request (.acting s (.receiving seen)) x.answer).1 =
      (follow purpose (s.ofReceiving (s.buffer.deliver parser seen x))).1 := by
  cases x <;> rfl

theorem isSome_read (x : Delivery) : ((Demand.read c most).record? x.answer).isSome = true := by
  cases x <;> rfl

theorem exists_delivery (h : ((Demand.read c most).record? a).isSome = true) :
    ∃ x : Delivery, a = x.answer := by
  cases a with
  | delivered b => exact ⟨.bytes b, rfl⟩
  | failed reason => exact ⟨.failed reason, rfl⟩
  | connected | accepted | done => cases h

theorem reads_cons_eq {x : Delivery} {deliveries : List Delivery}
    (h : (Demand.read c most, x.answer) :: rest = reads c most deliveries) :
    ∃ more, deliveries = x :: more ∧ rest = reads c most more := by
  cases deliveries with
  | nil => cases h
  | cons y more =>
    obtain ⟨hhead, hrest⟩ := List.cons.inj h
    have hx : x = y := by
      cases x <;> cases y <;> simp [Delivery.answer] at hhead <;> rw [hhead]
    exact ⟨more, by rw [hx], hrest⟩

/-- Receiving that is done ends the exchange. -/
theorem result?_received (hp : purpose = .ask ∨ purpose = .keep) (b : Buffer) :
    (follow purpose (s.ofReceiving (.done b seen r))).1.result? = some r := by
  cases r with
  | error e => rfl
  | ok m => rcases hp with rfl | rfl <;> rfl

theorem run_done {b b' : Buffer} {seen' : List Bytes} {r' : Except Error Message}
    {deliveries : List Delivery} :
    Receiving.run parser (.done b seen r) deliveries = (.done b' seen' r', []) ↔
      deliveries = [] ∧ b = b' ∧ seen = seen' ∧ r = r' := by
  cases deliveries <;> simp [Receiving.run]

/-- An exchange that receives ends as the receiving does. -/
theorem ends_receiving (hp : purpose = .ask ∨ purpose = .keep) :
    Ends parser peer purpose request (.acting s (.receiving seen)) ds r ↔
      ∃ deliveries b seen', ds = reads s.conn s.buffer.capacity deliveries ∧
        Receiving.run parser (.reading s.buffer seen) deliveries = (.done b seen' r, []) := by
  induction ds generalizing s seen with
  | nil =>
    refine ⟨fun h => (not_ends_nil h).elim, ?_⟩
    rintro ⟨deliveries, b, seen', hds, hrun⟩
    cases deliveries with
    | nil => cases hrun
    | cons => cases hds
  | cons said rest ih =>
    obtain ⟨d, a⟩ := said
    by_cases hread : ∃ x : Delivery, d = .read s.conn s.buffer.capacity ∧ a = x.answer
    · obtain ⟨x, rfl, rfl⟩ := hread
      have hresume := @resume_read parser peer purpose request s seen x
      have hcap := @deliver_capacity parser seen s.buffer x
      have hcons : (∃ deliveries b seen',
          (Demand.read s.conn s.buffer.capacity, x.answer) :: rest =
            reads s.conn s.buffer.capacity deliveries ∧
          Receiving.run parser (.reading s.buffer seen) deliveries = (.done b seen' r, [])) ↔
          ∃ more b seen', rest = reads s.conn s.buffer.capacity more ∧
            Receiving.run parser (s.buffer.deliver parser seen x) more = (.done b seen' r, []) := by
        constructor
        · rintro ⟨deliveries, b, seen', hds, hrun⟩
          obtain ⟨more, rfl, hmore⟩ := reads_cons_eq hds
          exact ⟨more, b, seen', hmore, hrun⟩
        · rintro ⟨more, b, seen', rfl, hrun⟩
          exact ⟨x :: more, b, seen', rfl, hrun⟩
      have hfits : ((demand peer (.acting s (.receiving seen))).record? x.answer).isSome = true :=
        isSome_read x
      rw [hcons]
      cases hd : s.buffer.deliver parser seen x with
      | reading b seen₁ =>
        rw [hd] at hresume hcap
        have hrest := @ih { s with buffer := b } seen₁
        simp only [show b.capacity = s.buffer.capacity from hcap] at hrest
        exact (ends_busy hfits hresume).trans hrest
      | done b seen₁ result =>
        rw [hd] at hresume
        refine (ends_over hfits hresume (result?_received hp b)).trans ?_
        constructor
        · rintro ⟨rfl, rfl⟩
          exact ⟨[], b, seen₁, rfl, run_done.2 ⟨rfl, rfl, rfl, rfl⟩⟩
        · rintro ⟨more, b', seen', rfl, hrun⟩
          obtain ⟨rfl, -, -, rfl⟩ := run_done.1 hrun
          exact ⟨rfl, rfl⟩
    · refine ⟨fun h => ?_, ?_⟩
      · obtain ⟨rfl, ha⟩ := h.demand
        exact (hread ((exists_delivery ha).imp fun x hx => ⟨rfl, hx⟩)).elim
      · rintro ⟨deliveries, b, seen', hds, -⟩
        cases deliveries with
        | nil => cases hds
        | cons x more =>
          cases hds
          exact (hread ⟨x, rfl, rfl⟩).elim

variable {b : Bytes}

/-- What a session does first to send some bytes. -/
def sending (b : Bytes) : Act := if b.isEmpty then .flushing else .writing b

/-- An act that is either done or fails is followed by the next, unless it fails. -/
theorem ends_act {act : Act} {x : Exchange} (hact : act = .flushing ∨ act = .finishing)
    (hgoes : (resume parser peer purpose request (.acting s act) .done).1 = .busy x) :
    Ends parser peer purpose request (.acting s act) ds r ↔
      (∃ reason, ds = [(s.demand act, .failed reason)] ∧ r = .error (.sendFailed reason)) ∨
        ∃ ds', ds = (s.demand act, .done) :: ds' ∧ Ends parser peer purpose request x ds' r := by
  have hfits (a : Answer) : ((demand peer (.acting s act)).record? a).isSome = true ↔
      a = .done ∨ ∃ reason, a = .failed reason := by
    rcases hact with rfl | rfl <;> cases a <;> simp [demand, Session.demand, Demand.record?]
  have hfails (reason : String) :
      (resume parser peer purpose request (.acting s act) (.failed reason)).1 =
        .failed (.sendFailed reason) := by
    rcases hact with rfl | rfl <;> rfl
  cases ds with
  | nil =>
    refine ⟨fun h => (not_ends_nil h).elim, ?_⟩
    rintro (⟨reason, hds, -⟩ | ⟨ds', hds, -⟩) <;> cases hds
  | cons said rest =>
    obtain ⟨d, a⟩ := said
    constructor
    · intro h
      obtain ⟨rfl, ha⟩ := h.demand
      rcases (hfits a).1 ha with rfl | ⟨reason, rfl⟩
      · exact .inr ⟨rest, rfl, (ends_busy ha hgoes).1 h⟩
      · obtain ⟨rfl, rfl⟩ := (ends_over ha (hfails reason) rfl).1 h
        exact .inl ⟨reason, rfl, rfl⟩
    · rintro (⟨reason, hds, rfl⟩ | ⟨ds', hds, h⟩)
      · cases hds
        exact (ends_over ((hfits _).2 (.inr ⟨reason, rfl⟩)) (hfails reason) rfl).2 ⟨rfl, rfl⟩
      · cases hds
        exact (ends_busy ((hfits _).2 (.inl rfl)) hgoes).2 h

theorem ends_finishing :
    Ends parser peer purpose request (.acting s .finishing) ds r ↔
      (∃ reason, ds = [(.finish s.conn, .failed reason)] ∧ r = .error (.sendFailed reason)) ∨
        ∃ ds', ds = (.finish s.conn, .done) :: ds' ∧
          Ends parser peer purpose request (.acting s (.receiving [])) ds' r :=
  ends_act (.inr rfl) rfl

theorem ends_flushing (hp : purpose ≠ .tell) :
    Ends parser peer purpose request (.acting s .flushing) ds r ↔
      (∃ reason, ds = [(.flush s.conn, .failed reason)] ∧ r = .error (.sendFailed reason)) ∨
        ∃ ds', ds = (.flush s.conn, .done) :: ds' ∧
          Ends parser peer purpose request (.acting s .finishing) ds' r := by
  refine ends_act (.inl rfl) ?_
  simp [resume, Session.resume, follow, hp]

/-- An exchange that sends goes on to finish once all is sent, unless that fails. -/
theorem ends_sending (hp : purpose ≠ .tell) (b : Bytes) :
    Ends parser peer purpose request (.acting s (sending b)) ds r ↔
      (∃ e, Sends s.conn b ds (.error e) ∧ r = .error e) ∨
        ∃ ds₁ ds₂, ds = ds₁ ++ ds₂ ∧ Sends s.conn b ds₁ (.ok ()) ∧
          Ends parser peer purpose request (.acting s .finishing) ds₂ r := by
  induction ds generalizing b with
  | nil =>
    refine ⟨fun h => (not_ends_nil h).elim, ?_⟩
    rintro (⟨e, hs, -⟩ | ⟨ds₁, ds₂, hds, hs, -⟩)
    · cases hs
    · rw [(List.append_eq_nil_iff.1 hds.symm).1] at hs
      cases hs
  | cons said rest ih =>
    obtain ⟨d, a⟩ := said
    by_cases hb : b = []
    · subst hb
      refine (ends_flushing hp).trans ?_
      constructor
      · rintro (⟨reason, hds, rfl⟩ | ⟨ds', hds, hends⟩)
        · cases hds
          exact .inl ⟨_, .unflushed reason, rfl⟩
        · exact .inr ⟨[_], ds', hds, .flushed, hends⟩
      · rintro (⟨e, hs, rfl⟩ | ⟨ds₁, ds₂, hds, hs, hends⟩)
        · cases hs with
          | unflushed reason => exact .inl ⟨reason, rfl, rfl⟩
          | wrote some | stuck some | unwritten some => exact (some rfl).elim
        · cases hs with
          | flushed => exact .inr ⟨ds₂, hds, hends⟩
          | wrote some => exact (some rfl).elim
    · have hact : sending b = .writing b := by simp [sending, hb]
      rw [hact]
      constructor
      · intro h
        obtain ⟨rfl, ha⟩ := h.demand
        cases a with
        | accepted n =>
          cases n with
          | zero =>
            obtain ⟨rfl, rfl⟩ := (ends_over rfl rfl rfl).1 h
            exact .inl ⟨_, .stuck hb, rfl⟩
          | succ n =>
            rcases (ih (b.drop (n + 1))).1 ((ends_busy rfl rfl).1 h) with
              ⟨e, hs, rfl⟩ | ⟨ds₁, ds₂, rfl, hs, hends⟩
            · exact .inl ⟨e, .wrote hb hs, rfl⟩
            · exact .inr ⟨_ :: ds₁, ds₂, rfl, .wrote hb hs, hends⟩
        | failed reason =>
          obtain ⟨rfl, rfl⟩ := (ends_over rfl rfl rfl).1 h
          exact .inl ⟨_, .unwritten hb reason, rfl⟩
        | connected | done | delivered => cases ha
      · rintro (⟨e, hs, rfl⟩ | ⟨ds₁, ds₂, hds, hs, hends⟩)
        · cases hs with
          | unflushed => exact (hb rfl).elim
          | wrote some hrest =>
            exact (ends_busy rfl rfl).2 ((ih _).2 (.inl ⟨e, hrest, rfl⟩))
          | stuck | unwritten => exact (ends_over rfl rfl rfl).2 ⟨rfl, rfl⟩
        · cases hs with
          | flushed => exact (hb rfl).elim
          | wrote some hrest =>
            cases hds
            exact (ends_busy rfl rfl).2 ((ih _).2 (.inr ⟨_, ds₂, rfl, hrest, hends⟩))

end Receiving

section Exchanges
variable {parser : Parser} {peer : Peer} {purpose : Purpose} {request : Bytes} {x x' : Exchange}
variable {ds more : Dialogue} {r r' : Except Error Message} {p : Progress}

/-- A connection that has just opened. -/
def opened (peer : Peer) (c : ConnId) : Session :=
  { conn := c, buffer := { capacity := peer.receiveBuffer } }

theorem resume_connected (hp : purpose = .ask ∨ purpose = .keep) (c : ConnId) :
    (resume parser peer purpose request .connecting (.connected c)).1 =
      .busy (.acting (opened peer c) (sending request)) := by
  rcases hp with rfl | rfl <;> rfl

theorem ends_connected (hp : purpose = .ask ∨ purpose = .keep) (c : ConnId) :
    Ends parser peer purpose request .connecting ((.connect peer.address, .connected c) :: ds) r ↔
      Brings parser peer request ((.connect peer.address, .connected c) :: ds) r := by
  have htell : purpose ≠ .tell := by rcases hp with rfl | rfl <;> nofun
  refine (ends_busy rfl (resume_connected hp c)).trans ((ends_sending htell request).trans ?_)
  constructor
  · rintro (⟨e, hs, rfl⟩ | ⟨ds₁, ds₂, rfl, hs, hends⟩)
    · exact .unsent hs
    · rcases ends_finishing.1 hends with ⟨reason, rfl, rfl⟩ | ⟨ds', rfl, hreads⟩
      · exact .unfinished hs reason
      · exact .received hs ((ends_receiving hp).1 hreads)
  · intro h
    cases h with
    | unsent hs => exact .inl ⟨_, hs, rfl⟩
    | unfinished hs reason =>
      exact .inr ⟨_, _, rfl, hs, ends_finishing.2 (.inl ⟨reason, rfl, rfl⟩)⟩
    | received hs hr =>
      exact .inr ⟨_, _, rfl, hs, ends_finishing.2 (.inr ⟨_, rfl, (ends_receiving hp).2 hr⟩)⟩

/-- An exchange that waits for its answer ends just as the dialogue with its connection has it. -/
theorem ends_iff_brings (hp : purpose = .ask ∨ purpose = .keep) :
    Ends parser peer purpose request .connecting ds r ↔ Brings parser peer request ds r := by
  cases ds with
  | nil => exact ⟨fun h => (not_ends_nil h).elim, nofun⟩
  | cons said rest =>
    obtain ⟨d, a⟩ := said
    constructor
    · intro h
      obtain ⟨rfl, ha⟩ := h.demand
      cases a with
      | connected c => exact (ends_connected hp c).1 h
      | failed reason =>
        obtain ⟨rfl, rfl⟩ := (ends_over rfl rfl rfl).1 h
        exact .unconnected reason
      | accepted | done | delivered => cases ha
    · intro h
      cases h with
      | unconnected reason => exact (ends_over rfl rfl rfl).2 ⟨rfl, rfl⟩
      | unsent hs => exact (ends_connected hp _).2 (.unsent hs)
      | unfinished hs reason => exact (ends_connected hp _).2 (.unfinished hs reason)
      | received hs hr => exact (ends_connected hp _).2 (.received hs hr)

theorem run_append (h : run parser peer purpose request x ds = some (.busy x')) :
    run parser peer purpose request x (ds ++ more) = run parser peer purpose request x' more := by
  induction ds generalizing x with
  | nil =>
    cases h
    rfl
  | cons said rest ih =>
    obtain ⟨d, a⟩ := said
    simp only [run, List.cons_append] at h ⊢
    split at h
    · rename_i hd
      rw [if_pos hd]
      split at h
      · exact ih h
      · rename_i hbusy
        split at h
        · exact (hbusy x' (Option.some.inj h)).elim
        · cases h
    · cases h

/-- Nothing is said after the end of an exchange. -/
theorem Ends.append (h : Ends parser peer purpose request x ds r)
    (h' : run parser peer purpose request x (ds ++ more) = some p) : more = [] := by
  induction ds generalizing x with
  | nil => exact (not_ends_nil h).elim
  | cons said rest ih =>
    obtain ⟨d, a⟩ := said
    obtain ⟨rfl, ha⟩ := h.demand
    cases hp : (resume parser peer purpose request x a).1 with
    | busy x' =>
      rw [List.cons_append, run_busy ha hp] at h'
      exact ih ((ends_busy ha hp).1 h) h'
    | failed | connected | told | answered | kept =>
      simp only [List.cons_append, run, ha, hp] at h'
      split at h'
      · split at h'
        · rename_i he
          exact (List.append_eq_nil_iff.1 he).2
        · cases h'
      · cases h'

/-- An exchange ends once, and with one result. -/
theorem Ends.unique (h : Ends parser peer purpose request x ds r)
    (h' : Ends parser peer purpose request x (ds ++ more) r') : more = [] ∧ r = r' := by
  obtain ⟨p, hp, -⟩ := Option.bind_eq_some_iff.1 h'
  obtain rfl := h.append hp
  rw [List.append_nil] at h'
  exact ⟨rfl, Option.some.inj (h.symm.trans h')⟩

end Exchanges
end Exchange
end SpaceGateway
