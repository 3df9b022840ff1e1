import SpaceGateway.Proofs.Moves
import SpaceGateway.Proofs.Outcome
/-!
What calls do to the network. A call that makes an exchange opens one connection, writes its request
and flushes it. Unless it only tells, it then closes the sending direction and reads until it has a
message. It stops at the first of these that fails. Last of all it gives the connection up, unless it
keeps it and has not failed.
-/
namespace SpaceGateway

/-- The bytes that were sent. -/
def sent (l : List Traffic) : Bytes :=
  l.flatMap fun
    | .wrote _ b => b
    | _ => []

/-- The connection that a dialogue comes to. -/
def connection? : Dialogue → Option ConnId
  | (.connect _, .connected c) :: _ => some c
  | _ => none

/-- Giving up the connection of a dialogue. -/
def parting (ds : Dialogue) : List Traffic := (connection? ds).toList.map .closed

namespace Exchange

/-- An exchange that only sends, from its beginning to its end. -/
inductive Tells (peer : Peer) (request : Bytes) : Dialogue → Except Error Unit → Prop
  | unconnected (reason) : Tells peer request [(.connect peer.address, .failed reason)]
    (.error (.connectFailed peer.address.text reason))
  | connected {c ds r} (sends : Sends c request ds r) :
    Tells peer request ((.connect peer.address, .connected c) :: ds) r

/-- All that is said in an exchange, and the message that it brings, if it is to bring one. -/
inductive Word (parser : Parser) (peer : Peer) (request : Bytes) :
    Purpose → Dialogue → Except Error (Option Message) → Prop
  | tell {ds r} (tells : Tells peer request ds r) :
    Word parser peer request .tell ds (r.map fun _ => none)
  | ask {ds r} (brings : Brings parser peer request ds r) :
    Word parser peer request .ask ds (r.map some)
  | keep {ds r} (brings : Brings parser peer request ds r) :
    Word parser peer request .keep ds (r.map some)

/-- What an exchange that is over has come to. -/
def Progress.outcome? : Progress → Option (Except Error (Option Message))
  | failed e => some (.error e)
  | told => some (.ok none)
  | answered m | kept m _ => some (.ok (some m))
  | busy _ | connected _ => none

/-- How an exchange stands with its connection when this was said. -/
inductive Held (ds : Dialogue) : Exchange → Prop
  | connecting (nothing : ds = []) : Held ds .connecting
  | acting (s a) (isOpen : s.isOpen = true) (conn : connection? ds = some s.conn) :
    Held ds (.acting s a)

/-- What an exchange may come to by what was said, and what is seen besides. -/
inductive Reaches (purpose : Purpose) (ds : Dialogue) : Progress → List Traffic → Prop
  | busy {x} (held : Held ds x) : Reaches purpose ds (.busy x) []
  | kept {m s} (keeps : purpose = .keep) (isOpen : s.isOpen = true)
    (conn : connection? ds = some s.conn) : Reaches purpose ds (.kept m s) []
  | failed (e) : Reaches purpose ds (.failed e) (parting ds)
  | told : Reaches purpose ds .told (parting ds)
  | answered {m} (gives : purpose ≠ .keep) : Reaches purpose ds (.answered m) (parting ds)

end Exchange

/-- Whether a dialogue sends a part of some bytes, from the front, and flushes nothing but the whole. -/
structure Conveys (b : Bytes) (ds : Dialogue) : Prop where
  sends : sent (records ds) <+: b
  flushes : ∀ c a, (.flush c, a) ∈ ds → sent (records ds) = b

/-- Whether a dialogue sends nothing. -/
def IsMute (ds : Dialogue) : Prop := ∀ said ∈ ds, ∀ c b, said.1 ≠ .write c b ∧ said.1 ≠ .flush c

section Sent
variable {c : ConnId} {b : Bytes} {ds more : Dialogue} {l l' : List Traffic} {d : Demand}
variable {a : Answer} {reason : String}

@[simp] theorem sent_append : sent (l ++ l') = sent l ++ sent l' := by
  simp [sent]

@[simp] theorem records_append : records (ds ++ more) = records ds ++ records more := by
  simp [records]

@[simp] theorem sent_parting : sent (parting ds) = [] := by
  simp [sent, parting]

theorem sent_failed : sent (records [(d, .failed reason)]) = [] := by
  cases d <;> rfl

/-- Only a flush leaves the record of one. -/
theorem flush_of_mem_records (h : .flushed c ∈ records ds) : ∃ a, (.flush c, a) ∈ ds := by
  obtain ⟨⟨d, a⟩, hmem, hrecord⟩ := List.mem_filterMap.1 h
  cases d <;> cases a <;> cases hrecord <;> exact ⟨_, hmem⟩

theorem sent_mute (h : IsMute ds) : sent (records ds) = [] := by
  induction ds with
  | nil => rfl
  | cons said rest ih =>
    obtain ⟨d, a⟩ := said
    have hrest : sent (records rest) = [] := ih fun y hy => h y (List.mem_cons_of_mem _ hy)
    have hsaid := h (d, a) List.mem_cons_self
    cases d with
    | write c b => exact ((hsaid c b).1 rfl).elim
    | connect | flush | finish | read => cases a <;> exact hrest

theorem Conveys.append_mute (h : Conveys b ds) (hmore : IsMute more) : Conveys b (ds ++ more) := by
  have hsent : sent (records (ds ++ more)) = sent (records ds) := by simp [sent_mute hmore]
  refine ⟨hsent ▸ h.sends, fun c a hmem => ?_⟩
  rcases List.mem_append.1 hmem with hmem | hmem
  · exact hsent.trans (h.flushes c a hmem)
  · exact ((hmore _ hmem c []).2 rfl).elim

theorem Conveys.connected {address : Address} (h : Conveys b ds) :
    Conveys b ((.connect address, .connected c) :: ds) := by
  refine ⟨h.sends, fun k a hmem => h.flushes k a ?_⟩
  simpa using hmem

/-- A dialogue that would convey the bytes if the next step failed does so without that step. -/
theorem Conveys.of_failed (h : Conveys b (ds ++ [(d, .failed reason)])) : Conveys b ds := by
  have hsent : sent (records (ds ++ [(d, .failed reason)])) = sent (records ds) := by
    simp [sent_failed]
  exact ⟨hsent ▸ h.sends, fun c a hmem => hsent ▸ h.flushes c a (List.mem_append_left _ hmem)⟩

theorem isMute_reads {most : Nat} {deliveries : List Delivery} :
    IsMute (reads c most deliveries) := by
  intro said hmem k b
  obtain ⟨x, -, rfl⟩ := List.mem_map.1 hmem
  exact ⟨nofun, nofun⟩

theorem Sends.conveys {r : Except Error Unit} (h : Sends c b ds r) : Conveys b ds := by
  induction h with
  | flushed | unflushed => exact ⟨List.nil_prefix, fun _ _ _ => rfl⟩
  | @wrote b n ds r some rest ih =>
    have hsent : sent (records ((.write c b, .accepted (n + 1)) :: ds)) =
        b.take (n + 1) ++ sent (records ds) := rfl
    have hcut := (List.prefix_append_right_inj (b.take (n + 1))).2 ih.sends
    rw [List.take_append_drop] at hcut
    refine ⟨hsent ▸ hcut, fun k a hmem => ?_⟩
    rw [hsent, ih.flushes k a (by simpa using hmem), List.take_append_drop]
  | stuck | unwritten => exact ⟨List.nil_prefix, fun k a hmem => by simp at hmem⟩

end Sent

namespace Exchange
variable {parser : Parser} {peer : Peer} {purpose : Purpose} {request b : Bytes} {x x' : Exchange}
variable {ds rest : Dialogue} {p : Progress} {s : Session} {c : ConnId} {d : Demand} {a : Answer}
variable {r : Except Error (Option Message)} {reason : String}

theorem conveys_unconnected {address : Address} :
    Conveys request [(.connect address, .failed reason)] :=
  ⟨List.nil_prefix, fun k a hmem => by simp at hmem⟩

theorem Brings.conveys {r : Except Error Message} (h : Brings parser peer request ds r) :
    Conveys request ds := by
  cases h with
  | unconnected => exact conveys_unconnected
  | unsent sends => exact sends.conveys.connected
  | unfinished sends =>
    refine (sends.conveys.append_mute ?_).connected
    exact List.forall_mem_singleton.2 fun k b => ⟨nofun, nofun⟩
  | received sends receives =>
    obtain ⟨deliveries, b, seen, rfl, -⟩ := receives
    refine (sends.conveys.append_mute ?_).connected
    exact List.forall_mem_cons.2 ⟨fun k b => ⟨nofun, nofun⟩, isMute_reads⟩

theorem Word.conveys (h : Word parser peer request purpose ds r) : Conveys request ds := by
  cases h with
  | tell tells =>
    cases tells with
    | unconnected => exact conveys_unconnected
    | connected sends => exact sends.conveys.connected
  | ask brings | keep brings => exact brings.conveys

theorem run_answered (ha : ((x.demand peer).record? a).isSome = true) :
    run parser peer purpose request x [(x.demand peer, a)] =
      some (x.resume parser peer purpose request a).1 := by
  simp only [run, ha, and_self, if_true]
  split
  · rename_i h
    rw [h]
  · rfl

theorem run_snoc (h : run parser peer purpose request x ds = some (.busy x'))
    (ha : ((x'.demand peer).record? a).isSome = true) :
    run parser peer purpose request x (ds ++ [(x'.demand peer, a)]) =
      some (x'.resume parser peer purpose request a).1 :=
  (run_append h).trans (run_answered ha)

/-- A failure ends an exchange wherever it stands. -/
theorem resume_failed (x : Exchange) (reason : String) :
    ∃ e, (x.resume parser peer purpose request (.failed reason)).1 = .failed e := by
  cases x with
  | connecting => exact ⟨_, rfl⟩
  | acting s act => cases act <;> exact ⟨_, rfl⟩

theorem resume_told (h : (x.resume parser peer purpose request a).1 = .told) : purpose = .tell := by
  have hfollow {q : Session.Progress} (h : (follow purpose q).1 = .told) : purpose = .tell := by
    cases q with
    | sent s =>
      simp only [follow] at h
      split at h
      · assumption
      · cases h
    | received s m =>
      simp only [follow] at h
      split at h <;> cases h
    | busy | failed | finished => cases h
  cases x with
  | connecting =>
    cases a with
    | connected c =>
      simp only [resume] at h
      split at h
      · cases h
      · exact hfollow h
    | accepted | done | delivered | failed => cases h
  | acting s act => exact hfollow h

/-- What the first answer leads to. -/
theorem run_cons (h : run parser peer purpose request x ((d, a) :: rest) = some p) :
    d = x.demand peer ∧ ((x.demand peer).record? a).isSome = true ∧
      ((∃ x', (x.resume parser peer purpose request a).1 = .busy x' ∧
          run parser peer purpose request x' rest = some p) ∨
        rest = [] ∧ (x.resume parser peer purpose request a).1 = p) := by
  simp only [run] at h
  split at h
  · rename_i hd
    obtain ⟨rfl, ha⟩ := hd
    refine ⟨rfl, ha, ?_⟩
    split at h
    · rename_i x' hx
      exact .inl ⟨x', hx, h⟩
    · split at h
      · rename_i hrest
        exact .inr ⟨hrest, Option.some.inj h⟩
      · cases h
  · cases h

/-- Only an exchange that is to tell comes to that. -/
theorem run_told (h : run parser peer purpose request x ds = some .told) : purpose = .tell := by
  induction ds generalizing x with
  | nil => cases h
  | cons said rest ih =>
    obtain ⟨-, -, ⟨x', -, hrest⟩ | ⟨-, htold⟩⟩ := run_cons h
    · exact ih hrest
    · exact resume_told htold

theorem run_ended (h : run parser peer purpose request x ((d, a) :: rest) = some p)
    (hr : (x.resume parser peer purpose request a).1.outcome? = some r) :
    rest = [] ∧ p.outcome? = some r := by
  obtain ⟨-, -, ⟨x', hx, -⟩ | ⟨rfl, rfl⟩⟩ := run_cons h
  · rw [hx] at hr
    cases hr
  · exact ⟨rfl, hr⟩

/-- An exchange that only sends is over once all is flushed. -/
theorem tells_sending (h : run parser peer .tell request (.acting s (sending b)) ds = some p)
    (hp : p.outcome? = some r) : ∃ r', Sends s.conn b ds r' ∧ r = r'.map fun _ => none := by
  induction ds generalizing b with
  | nil =>
    cases h
    cases hp
  | cons said rest ih =>
    obtain ⟨d, a⟩ := said
    obtain ⟨rfl, ha, -⟩ := run_cons h
    by_cases hb : b = []
    · subst hb
      cases a with
      | done =>
        obtain ⟨rfl, hr⟩ := run_ended h rfl
        cases hp.symm.trans hr
        exact ⟨_, .flushed, rfl⟩
      | failed reason =>
        obtain ⟨rfl, hr⟩ := run_ended h rfl
        cases hp.symm.trans hr
        exact ⟨_, .unflushed reason, rfl⟩
      | connected | accepted | delivered => cases ha
    · have hact : sending b = .writing b := by simp [sending, hb]
      rw [hact] at h ha ⊢
      cases a with
      | accepted n =>
        cases n with
        | zero =>
          obtain ⟨rfl, hr⟩ := run_ended h rfl
          cases hp.symm.trans hr
          exact ⟨_, .stuck hb, rfl⟩
        | succ n =>
          rw [run_busy ha rfl] at h
          obtain ⟨r', hsends, hr⟩ := ih h
          exact ⟨r', .wrote hb hsends, hr⟩
      | failed reason =>
        obtain ⟨rfl, hr⟩ := run_ended h rfl
        cases hp.symm.trans hr
        exact ⟨_, .unwritten hb reason, rfl⟩
      | connected | done | delivered => cases ha

theorem tells_of_run (h : run parser peer .tell request .connecting ds = some p)
    (hp : p.outcome? = some r) : ∃ r', Tells peer request ds r' ∧ r = r'.map fun _ => none := by
  cases ds with
  | nil =>
    cases h
    cases hp
  | cons said rest =>
    obtain ⟨d, a⟩ := said
    obtain ⟨rfl, ha, -⟩ := run_cons h
    cases a with
    | connected c =>
      have hopens : (resume parser peer .tell request .connecting (.connected c)).1 =
          .busy (.acting (opened peer c) (sending request)) := rfl
      rw [run_busy ha hopens] at h
      obtain ⟨r', hsends, hr⟩ := tells_sending h hp
      exact ⟨r', .connected hsends, hr⟩
    | failed reason =>
      obtain ⟨rfl, hr⟩ := run_ended h rfl
      cases hp.symm.trans hr
      exact ⟨_, .unconnected reason, rfl⟩
    | accepted | done | delivered => cases ha

/-- An exchange that is over has said a word of its purpose. -/
theorem word_of_run (hpurpose : purpose ≠ .connect)
    (h : run parser peer purpose request .connecting ds = some p) (hp : p.outcome? = some r) :
    Word parser peer request purpose ds r := by
  have hbrings (hwaits : purpose = .ask ∨ purpose = .keep) :
      ∃ r', Brings parser peer request ds r' ∧ r = r'.map some := by
    have hends (r') (hr : p.result? = some r') : Brings parser peer request ds r' := by
      refine (ends_iff_brings hwaits).1 ?_
      rw [Ends, h]
      exact hr
    cases p with
    | failed e => exact ⟨_, hends _ rfl, (Option.some.inj hp).symm⟩
    | answered m | kept m s => exact ⟨_, hends _ rfl, (Option.some.inj hp).symm⟩
    | told => rcases hwaits with rfl | rfl <;> cases run_told h
    | busy | connected => cases hp
  cases purpose with
  | connect => exact (hpurpose rfl).elim
  | tell =>
    obtain ⟨r', htells, rfl⟩ := tells_of_run h hp
    exact .tell htells
  | ask =>
    obtain ⟨r', hb, rfl⟩ := hbrings (.inl rfl)
    exact .ask hb
  | keep =>
    obtain ⟨r', hb, rfl⟩ := hbrings (.inr rfl)
    exact .keep hb

theorem Word.told (h : Word parser peer request .tell ds r) (m : Message) : r ≠ .ok (some m) := by
  cases h with
  | @tell ds r tells => cases r <;> nofun

/-- What an exchange in progress has said is the beginning of a word. -/
theorem word_of_busy (hpurpose : purpose ≠ .connect)
    (h : run parser peer purpose request .connecting ds = some (.busy x)) (reason : String) :
    ∃ e, Word parser peer request purpose (ds ++ [(x.demand peer, .failed reason)]) (.error e) := by
  obtain ⟨e, he⟩ := @resume_failed parser peer purpose request x reason
  have ha : ((x.demand peer).record? (.failed reason)).isSome = true := by
    cases x with
    | connecting => rfl
    | acting s act => cases act <;> rfl
  refine ⟨e, word_of_run hpurpose (run_snoc h ha) ?_⟩
  rw [he]
  rfl

theorem connection?_append {more : Dialogue} (h : connection? ds = some c) :
    connection? (ds ++ more) = some c := by
  cases ds with
  | nil => cases h
  | cons said rest =>
    unfold connection? at h
    split at h
    · rename_i hds
      obtain ⟨rfl, rfl⟩ := List.cons.inj hds
      exact h
    · cases h

theorem parting_eq (h : connection? ds = some c) : parting ds = [.closed c] := by
  simp [parting, h]

/-- Closing a session gives up the connection that the dialogue has come to. -/
theorem traffic_close_parting (hs : s.isOpen = true) (h : connection? ds = some s.conn) :
    traffic s.close.2 = parting ds := by
  rw [Session.traffic_close hs, parting_eq h]

theorem Leads.reaches {l : List Traffic} (h : Leads purpose c p l) (hc : connection? ds = some c) :
    Reaches purpose ds p l := by
  cases h with
  | busy s a conn isOpen => exact .busy (.acting s a isOpen (conn ▸ hc))
  | kept m s conn isOpen keeps => exact .kept keeps isOpen (conn ▸ hc)
  | failed e => exact parting_eq hc ▸ .failed e
  | told => exact parting_eq hc ▸ .told
  | answered m gives => exact parting_eq hc ▸ .answered gives

/-- An exchange gives its connection up just when it is over, unless it keeps it. -/
theorem Held.reaches (h : Held ds x) (hpurpose : purpose ≠ .connect)
    (ha : ((x.demand peer).record? a).isSome = true) :
    Reaches purpose (ds ++ [(x.demand peer, a)]) (x.resume parser peer purpose request a).1
      (traffic (x.resume parser peer purpose request a).2) := by
  cases h with
  | connecting nothing =>
    subst nothing
    cases a with
    | connected c => exact (resume_connected_leads c hpurpose).reaches rfl
    | failed reason => exact .failed _
    | accepted | done | delivered => cases ha
  | acting s act isOpen conn =>
    exact (resume_acting_leads isOpen act a).reaches (connection?_append conn)

end Exchange

section Openings
variable {parser : Parser} {peer : Peer} {purpose : Purpose} {request b : Bytes} {c : ConnId}
variable {ds rest : Dialogue} {r : Except Error (Option Message)}

/-- No answer gives a connection up. -/
@[simp] theorem closings_records : closings (records ds) = [] := by
  refine List.filterMap_eq_nil_iff.2 fun x hx => ?_
  obtain ⟨⟨d, a⟩, -, hrecord⟩ := List.mem_filterMap.1 hx
  cases d <;> cases a <;> cases hrecord <;> rfl

@[simp] theorem openings_parting : openings (parting ds) = [] := by
  unfold parting
  cases connection? ds <;> rfl

@[simp] theorem closings_parting : closings (parting ds) = (connection? ds).toList := by
  unfold parting
  cases connection? ds <;> rfl

theorem openings_of_connected (h : ∀ said ∈ rest, ∀ a, said.1 ≠ .connect a) :
    openings (records rest) = [] := by
  refine List.filterMap_eq_nil_iff.2 fun x hx => ?_
  obtain ⟨⟨d, a⟩, hmem, hrecord⟩ := List.mem_filterMap.1 hx
  cases d with
  | connect address => exact (h _ hmem address rfl).elim
  | write | flush | finish | read => cases a <;> cases hrecord <;> rfl

theorem Sends.connected {r : Except Error Unit} (h : Sends c b ds r) :
    ∀ said ∈ ds, ∀ a, said.1 ≠ .connect a := by
  induction h with
  | flushed | unflushed | stuck | unwritten => exact List.forall_mem_singleton.2 nofun
  | wrote some rest ih => exact List.forall_mem_cons.2 ⟨nofun, ih⟩

namespace Exchange

/-- A word begins with the one connection that it is about. -/
theorem Word.openings (h : Word parser peer request purpose ds r) :
    SpaceGateway.openings (records ds) = (connection? ds).toList := by
  have hconnected {c ds} (h : ∀ said ∈ ds, ∀ a, said.1 ≠ .connect a) :
      SpaceGateway.openings (records ((.connect peer.address, .connected c) :: ds)) = [c] :=
    congrArg (c :: ·) (openings_of_connected h)
  have hbrings {r} (h : Brings parser peer request ds r) :
      SpaceGateway.openings (records ds) = (connection? ds).toList := by
    cases h with
    | unconnected => rfl
    | unsent sends => exact hconnected sends.connected
    | unfinished sends reason =>
      refine hconnected (List.forall_mem_append.2 ⟨sends.connected, ?_⟩)
      exact List.forall_mem_singleton.2 nofun
    | received sends receives =>
      obtain ⟨deliveries, b, seen, rfl, -⟩ := receives
      refine hconnected (List.forall_mem_append.2 ⟨sends.connected, ?_⟩)
      exact List.forall_mem_cons.2 ⟨nofun, List.forall_mem_map.2 nofun⟩
  cases h with
  | tell tells =>
    cases tells with
    | unconnected => rfl
    | connected sends => exact hconnected sends.connected
  | ask brings | keep brings => exact hbrings brings

end Exchange
end Openings

/-- Whether a call has failed. -/
def CallResult.isFailed : CallResult → Bool
  | failed _ => true
  | _ => false

theorem CallResult.isFailed_iff {r : CallResult} : r.isFailed = true ↔ ∃ e, r = .failed e := by
  cases r <;> simp [isFailed]

/-- What a call makes of what its exchange has come to. A message may be refused. -/
def Aim.Reports : Aim → Except Error (Option Message) → CallResult → Prop
  | _, .error e, r => r = .failed e
  | tell, .ok none, r => r = .sent
  | ask, .ok (some m), r => r = .message m
  | keep, .ok (some m), r => ∃ s, r = .kept m s
  | confirm .., .ok (some m), r | subscribe .., .ok (some m), r =>
    r = .message m ∨ ∃ e, r = .failed e
  | _, _, _ => False

/-- How a call that makes an exchange stands when this was said, and what was seen of it. -/
inductive Call.Conducts (parser : Parser) (peer : Peer) (aim : Aim) (request : Bytes)
    (ds : Dialogue) : List Traffic → CallStatus → Prop
  | underway {x} (run : Exchange.run parser peer aim.purpose request .connecting ds = some (.busy x))
    (held : Exchange.Held ds x) :
    Conducts parser peer aim request ds (records ds) (.going (.exchanging aim request x))
  | entering {m subscription s node t} (enters : aim = .subscribe node t)
    (run : Exchange.run parser peer aim.purpose request .connecting ds = some (.kept m s))
    (isOpen : s.isOpen = true) (conn : connection? ds = some s.conn)
    (named : m.subscription = some subscription) :
    Conducts parser peer aim request ds (records ds) (.going (.registering m subscription s))
  | kept {m s r} (keeps : aim.purpose = .keep)
    (run : Exchange.run parser peer aim.purpose request .connecting ds = some (.kept m s))
    (reports : aim.Reports (.ok (some m)) r) (succeeds : r.isFailed = false) :
    Conducts parser peer aim request ds (records ds) (.done r)
  | ended {p out r} (run : Exchange.run parser peer aim.purpose request .connecting ds = some p)
    (outcome : p.outcome? = some out) (reports : aim.Reports out r)
    (fails : aim.purpose = .keep → r.isFailed = true) :
    Conducts parser peer aim request ds (records ds ++ parting ds) (.done r)

namespace Call
variable {parser : Parser} {c : Client} {k : CallId} {aim : Aim} {request : Bytes} {ds : Dialogue}
variable {l : List Traffic} {p : Exchange.Progress} {call : Call} {a : Answer}

/-- What a call makes of its exchange. -/
theorem conducts_exchanged (haim : aim.purpose ≠ .connect)
    (hrun : Exchange.run parser c.peer aim.purpose request .connecting ds = some p)
    (h : Exchange.Reaches aim.purpose ds p l) :
    Conducts parser c.peer aim request ds
      (records ds ++ (l ++ traffic (exchanged c aim request p).events))
      (exchanged c aim request p).status := by
  cases h with
  | busy held => simpa [exchanged] using Conducts.underway hrun held
  | failed e => simpa [exchanged] using Conducts.ended (r := .failed e) hrun rfl rfl fun _ => rfl
  | told =>
    have htell : aim = .tell := by
      have hpurpose := Exchange.run_told hrun
      cases aim <;> first | rfl | cases hpurpose
    subst htell
    simpa [exchanged] using Conducts.ended hrun rfl rfl (by simp [Aim.purpose])
  | @answered m gives =>
    cases aim with
    | connect => exact (haim rfl).elim
    | keep | subscribe => exact (gives rfl).elim
    | tell => exact ((Exchange.word_of_run haim hrun rfl).told m rfl).elim
    | ask => simpa [exchanged] using Conducts.ended hrun rfl rfl (by simp [Aim.purpose])
    | confirm node t =>
      simp only [exchanged]
      cases hm : m.confirmed node c.peer.space t with
      | ok m' =>
        obtain rfl := Message.confirmed_ok hm
        simpa using Conducts.ended hrun rfl (.inl rfl) (by simp [Aim.purpose])
      | error e => simpa using Conducts.ended hrun rfl (.inr ⟨e, rfl⟩) (by simp [Aim.purpose])
  | @kept m s keeps isOpen conn =>
    have hclose := Exchange.traffic_close_parting isOpen conn
    have hgivesUp (e : Error) (hreports : aim.Reports (.ok (some m)) (.failed e)) :
        Conducts parser c.peer aim request ds (records ds ++ parting ds) (.done (.failed e)) :=
      .ended hrun rfl hreports fun _ => rfl
    cases aim with
    | connect | tell | ask | confirm => cases keeps
    | keep => simpa [exchanged] using Conducts.kept rfl hrun ⟨s, rfl⟩ rfl
    | subscribe node t =>
      simp only [exchanged]
      cases hm : m.confirmed node c.peer.space t with
      | error e => simpa [hclose] using hgivesUp e (.inr ⟨e, rfl⟩)
      | ok m' =>
        obtain rfl := Message.confirmed_ok hm
        dsimp only
        cases hsub : m'.subscription with
        | none => simpa [hclose] using hgivesUp _ (.inr ⟨_, rfl⟩)
        | some sub => simpa using Conducts.entering rfl hrun isOpen conn hsub

/-- A step that needs no answer. -/
theorem Conducts.step (h : Conducts parser c.peer aim request ds l (.going call)) :
    Conducts parser c.peer aim request ds (l ++ traffic (call.step parser c k).events)
      (call.step parser c k).status := by
  cases h with
  | underway run held => simpa [Call.step] using Conducts.underway run held
  | @entering m sub s node t enters run isOpen conn named =>
    subst enters
    have hclose := Exchange.traffic_close_parting isOpen conn
    simp only [Call.step, Client.register]
    split
    · simpa [hclose] using Conducts.ended (r := .failed (.subscriptionTaken sub)) run rfl
        (.inr ⟨_, rfl⟩) fun _ => rfl
    · simpa using Conducts.kept rfl run (.inl rfl) rfl

theorem Conducts.resume (haim : aim.purpose ≠ .connect)
    (h : Conducts parser c.peer aim request ds l (.going call)) (a : Answer) :
    Conducts parser c.peer aim request (ds ++ (call.said? c k a).toList)
      (l ++ traffic (call.resume parser c k a).events) (call.resume parser c k a).status := by
  cases h with
  | @underway x run held =>
    by_cases ha : ((x.demand c.peer).record? a).isSome = true
    · obtain ⟨record, hrecord⟩ := Option.isSome_iff_exists.1 ha
      have hgoes := conducts_exchanged haim (Exchange.run_snoc run ha) (held.reaches haim ha)
      simpa [Call.resume, Step.after, said?, need, ha, records, hrecord] using hgoes
    · have hunfit : (x.demand c.peer).record? a = none := by simpa using ha
      simpa [Call.resume, Step.after, said?, need, exchange_unfit hunfit, exchanged, hunfit] using
        Conducts.underway run held
  | entering enters run isOpen conn named =>
    simpa [Call.resume, said?, need] using Conducts.entering enters run isOpen conn named

section Words
variable {peer : Peer} {st : CallStatus} {r : CallResult}

theorem Conducts.conveys (h : Conducts parser peer aim request ds l st)
    (haim : aim.purpose ≠ .connect) : Conveys request ds := by
  cases h with
  | underway run =>
    obtain ⟨e, hword⟩ := Exchange.word_of_busy haim run ""
    exact hword.conveys.of_failed
  | entering enters run | kept keeps run => exact (Exchange.word_of_run haim run rfl).conveys
  | ended run outcome => exact (Exchange.word_of_run haim run outcome).conveys

/-- Giving up a connection sends nothing and flushes nothing. -/
theorem Conducts.seen (h : Conducts parser peer aim request ds l st) :
    sent l = sent (records ds) ∧ ∀ c, .flushed c ∈ l → .flushed c ∈ records ds := by
  cases h with
  | underway | entering | kept => exact ⟨rfl, fun c hc => hc⟩
  | ended => exact ⟨by simp, fun c hc => by simpa [parting] using hc⟩

theorem Conducts.returned (h : Conducts parser peer aim request ds l (.done r))
    (haim : aim.purpose ≠ .connect) :
    ∃ out, Exchange.Word parser peer request aim.purpose ds out ∧ aim.Reports out r ∧
      l = records ds ++ if aim.purpose = .keep ∧ r.isFailed = false then [] else parting ds := by
  cases h with
  | kept keeps run reports succeeds =>
    exact ⟨_, Exchange.word_of_run haim run rfl, reports, by simp [keeps, succeeds]⟩
  | ended run outcome reports fails =>
    refine ⟨_, Exchange.word_of_run haim run outcome, reports, ?_⟩
    rw [if_neg]
    rintro ⟨hkeep, hok⟩
    simp [fails hkeep] at hok

theorem Conducts.unreturned (h : Conducts parser peer aim request ds l st)
    (haim : aim.purpose ≠ .connect) (hst : ∀ r, st ≠ .done r) :
    l = records ds ∧
      ((∃ next, ∀ reason, ∃ e, Exchange.Word parser peer request aim.purpose
          (ds ++ [(next, .failed reason)]) (.error e)) ∨
        (∃ node t, aim = .subscribe node t) ∧
          ∃ m, Exchange.Word parser peer request aim.purpose ds (.ok (some m))) := by
  cases h with
  | underway run => exact ⟨rfl, .inl ⟨_, Exchange.word_of_busy haim run⟩⟩
  | entering enters run =>
    exact ⟨rfl, .inr ⟨⟨_, _, enters⟩, _, Exchange.word_of_run haim run rfl⟩⟩
  | kept | ended => exact (hst _ rfl).elim

/-- A call that fails gives up the connection that it has opened, and no other. -/
theorem Conducts.failed {e : Error} (h : Conducts parser peer aim request ds l (.done (.failed e)))
    (haim : aim.purpose ≠ .connect) : closings l = openings l := by
  cases h with
  | kept keeps run reports succeeds => cases succeeds
  | ended run outcome =>
    have hword := Exchange.word_of_run haim run outcome
    simp [hword.openings]

/-- A call that keeps its connection and has not failed gives up none. -/
theorem Conducts.succeeded (h : Conducts parser peer aim request ds l (.done r))
    (keeps : aim.purpose = .keep) (hr : r.isFailed = false) :
    openings l = (connection? ds).toList ∧ closings l = [] := by
  have haim : aim.purpose ≠ .connect := by simp [keeps]
  cases h with
  | kept _ run => exact ⟨(Exchange.word_of_run haim run rfl).openings, closings_records⟩
  | ended run outcome reports fails => simp [fails keeps] at hr

end Words
end Call

/-- All that is seen of a call in a run. -/
def Desk.traffic (d : Desk) (k : CallId) (moves : List Desk.Move) : List Traffic :=
  SpaceGateway.traffic ((d.deeds k moves).flatMap (·.seen))

/-- All that a call says to the network in a run. -/
def Desk.dialogue (d : Desk) (k : CallId) (moves : List Desk.Move) : Dialogue :=
  (d.deeds k moves).filterMap (·.said)

namespace Desk

/-- How a call that makes an exchange stands after these deeds. -/
def Conforms (d : Desk) (aim : Aim) (request : Bytes) (l : List Deed) (st : CallStatus) : Prop :=
  Call.Conducts d.codec.parser d.client.peer aim request (l.filterMap (·.said))
    (SpaceGateway.traffic (l.flatMap (·.seen))) st

section Runs
variable {d : Desk} {k : CallId} {command : Command} {pre moves : List Move} {aim : Aim}
variable {request : Bytes} {l : List Deed} {call : Call}

theorem Conforms.step (h : d.Conforms aim request l (.going call)) :
    let s := call.step d.codec.parser (d.moveAll pre).client k
    d.Conforms aim request (l ++ [.ofStep (d.moveAll pre).client none s]) s.status := by
  have hstep := Call.Conducts.step (c := (d.moveAll pre).client) (k := k)
    (by simpa [Conforms] using h)
  simpa [Conforms, Deed.ofStep] using hstep

theorem Conforms.resume (haim : aim.purpose ≠ .connect) (h : d.Conforms aim request l (.going call))
    (a : Answer) :
    let s := call.resume d.codec.parser (d.moveAll pre).client k a
    d.Conforms aim request (l ++ [.ofStep (d.moveAll pre).client
      (call.said? (d.moveAll pre).client k a) s]) s.status := by
  have hresume := Call.Conducts.resume (c := (d.moveAll pre).client) (k := k) haim
    (by simpa [Conforms] using h) a
  cases hsaid : call.said? (d.moveAll pre).client k a <;>
    simpa [Conforms, Deed.ofStep, hsaid] using hresume

/-- The conduct of a call that makes an exchange, whatever happens besides. -/
theorem Makes.conforms (h : d.Makes k command moves) (haim : aim.purpose ≠ .connect)
    (hcall : Call.ofCommand d.codec d.client.peer command =
      .ok (.exchanging aim request .connecting)) :
    ∃ st, d.Conforms aim request (d.deeds k moves) st ∧ (d.moveAll moves).Stands k st :=
  h.induction (P := fun _ => d.Conforms aim request) hcall
    (fun _ => .underway rfl (.connecting rfl)) (fun _ _ _ _ hgoing => hgoing.step)
    (fun _ _ _ a _ hgoing => hgoing.resume haim a) (fun _ _ _ _ hP => hP)

end Runs
end Desk

/-- The operation that a command asks a server to carry out. -/
def Command.operation? : Command → Option (String × UInt32 × Operation)
  | request node i o | subscribe node i o => some (node, i, o)
  | unsubscribe node i subscription => some (node, i, .unsubscribe subscription)
  | _ => none

theorem ofCommand_unbuilt {codec : Codec} {peer : Peer} {command : Command} {node : String}
    {i : UInt32} {o : Operation} {f : CodecFault} (hasks : command.operation? = some (node, i, o))
    (hbuild : codec.build ⟨peer.space, node, i, o⟩ = .error f) :
    Call.ofCommand codec peer command = .error f := by
  cases command with
  | request | subscribe | unsubscribe =>
    cases hasks
    simp only [Call.ofCommand, hbuild]
    rfl
  | connect | tell | ask | keep | send | finish | receive | close | remove | next | follow =>
    cases hasks

namespace Desk

/-- What a call that makes an exchange does to the network in a run. -/
structure Exchanges (d : Desk) (k : CallId) (moves : List Move) (aim : Aim) (request : Bytes) :
    Prop where
  /-- When it has returned, it has said a word of its purpose, and has given its connection up last of
  all. Only a call that keeps the connection has not, if it has not failed. -/
  returned : ∀ r, (d.moveAll moves).Returned k r → ∃ out,
    Exchange.Word d.codec.parser d.client.peer request aim.purpose (d.dialogue k moves) out ∧
      aim.Reports out r ∧
      d.traffic k moves = records (d.dialogue k moves) ++
        if aim.purpose = .keep ∧ r.isFailed = false then [] else parting (d.dialogue k moves)
  /-- Until then it has said the beginning of one, which would be whole if the next step failed; or
  all of it, if it has yet to enter its subscription. -/
  underway : (∀ r, ¬ (d.moveAll moves).Returned k r) →
    d.traffic k moves = records (d.dialogue k moves) ∧
      ((∃ next, ∀ reason, ∃ e, Exchange.Word d.codec.parser d.client.peer request aim.purpose
          (d.dialogue k moves ++ [(next, .failed reason)]) (.error e)) ∨
        (∃ node t, aim = .subscribe node t) ∧ ∃ m, Exchange.Word d.codec.parser d.client.peer request
          aim.purpose (d.dialogue k moves) (.ok (some m)))
  /-- It sends its request from the front, and flushes it when all is sent. -/
  sends : sent (d.traffic k moves) <+: request
  flushes : ∀ c, .flushed c ∈ d.traffic k moves → sent (d.traffic k moves) = request

section Calls
variable {d : Desk} {k : CallId} {command : Command} {moves : List Move} {aim : Aim}
variable {request : Bytes}

theorem Makes.exchanges (h : d.Makes k command moves) (haim : aim ≠ .connect)
    (hcall : Call.ofCommand d.codec d.client.peer command =
      .ok (.exchanging aim request .connecting)) : d.Exchanges k moves aim request := by
  have hpurpose : aim.purpose ≠ .connect := by
    cases aim with
    | connect => exact (haim rfl).elim
    | tell | ask | keep | confirm | subscribe => nofun
  obtain ⟨st, hconducts, hst⟩ := h.conforms hpurpose hcall
  obtain ⟨hsent, hflushed⟩ := Call.Conducts.seen hconducts
  have hconveys := Call.Conducts.conveys hconducts hpurpose
  refine ⟨fun r hr => ?_, fun hr => ?_, hsent ▸ hconveys.sends, fun c hc => ?_⟩
  · exact (hst.returned_iff.1 hr ▸ hconducts).returned hpurpose
  · refine hconducts.unreturned hpurpose fun r he => hr r (hst.returned_iff.2 he)
  · obtain ⟨a, ha⟩ := flush_of_mem_records (hflushed c hc)
    exact hsent.trans (hconveys.flushes c a ha)

/-- A call that makes an exchange keeps to the words of its purpose on its one connection, whatever
its codec, the network and other calls do. A call whose request cannot be built does nothing to the
network. -/
theorem conduct_on_connections (h : d.Makes k command moves) :
    (∀ aim request, aim ≠ .connect →
      Call.ofCommand d.codec d.client.peer command = .ok (.exchanging aim request .connecting) →
        d.Exchanges k moves aim request) ∧
      ∀ node i o f, command.operation? = some (node, i, o) →
        d.codec.build ⟨d.client.peer.space, node, i, o⟩ = .error f →
          d.dialogue k moves = [] ∧ d.traffic k moves = [] ∧
            ∀ r, (d.moveAll moves).Returned k r ↔ r = .failed (.codec f) := by
  refine ⟨fun aim request haim hcall => h.exchanges haim hcall, ?_⟩
  intro node i o f hasks hbuild
  obtain ⟨⟨c, hdeeds⟩, hst⟩ := h.unbuilt (ofCommand_unbuilt hasks hbuild)
  refine ⟨by simp [dialogue, hdeeds], by simp [traffic, hdeeds], fun r => ?_⟩
  rw [hst.returned_iff]
  simp [eq_comm]

/-- A codec that builds no request, and takes any byte for a message. -/
def speechless : Codec :=
  ⟨fun _ => .error (.malformed "request"), fun _ => .complete 1
    { transaction := .query, role := .confirm, node := "node", space := "space" }⟩

/-- A client before anything has happened to it, which cannot carry out operations. -/
def speechlessDesk : Desk := opening speechless ⟨"space", ⟨"host", 1⟩, 64⟩

/-- An exchange of bytes that go one by one, and a command that cannot be carried out. -/
def askedAndUnasked : List Move :=
  [.start 0 (.ask [1, 2]), .resume 0 (.connected 7), .start 1 (.unsubscribe "node" 1 "s"),
    .resume 0 (.accepted 1), .resume 0 (.accepted 1), .resume 0 .done, .resume 0 .done,
    .resume 0 (.delivered [0])]

theorem conduct_on_connections_of_two_writes :
    speechlessDesk.Makes 0 (.ask [1, 2]) askedAndUnasked ∧
      speechlessDesk.Exchanges 0 askedAndUnasked .ask [1, 2] ∧
      speechlessDesk.Makes 1 (.unsubscribe "node" 1 "s") askedAndUnasked ∧
      speechlessDesk.traffic 1 askedAndUnasked = [] := by
  have hasked : speechlessDesk.Makes 0 (.ask [1, 2]) askedAndUnasked := .of_opening rfl
  have hunasked : speechlessDesk.Makes 1 (.unsubscribe "node" 1 "s") askedAndUnasked :=
    .of_opening rfl
  exact ⟨hasked, (conduct_on_connections hasked).1 .ask [1, 2] nofun rfl, hunasked,
    ((conduct_on_connections hunasked).2 "node" 1 _ _ rfl rfl).2.1⟩

example : speechlessDesk.traffic 0 askedAndUnasked =
    [.opened 7 ⟨"host", 1⟩, .wrote 7 [1], .wrote 7 [2], .flushed 7, .finished 7, .read 7 1,
      .closed 7] := by
  decide +kernel

end Calls
end Desk
end SpaceGateway
