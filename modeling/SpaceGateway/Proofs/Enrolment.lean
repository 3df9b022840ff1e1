import SpaceGateway.Proofs.Connections
import SpaceGateway.Proofs.Conservation
import SpaceGateway.Proofs.Spellings
/-!
Subscribing, whole or not at all. A call that fails leaves the client as it found it, and gives up the
connection that it has opened. One that succeeds does one thing to the client: under an id that is
free it enters its session, open and with all the bytes that came after the confirmation. So of several
calls whose confirmations name one id, the next succeeds only when the entry of the last is gone.
-/
namespace SpaceGateway

/-- What the reads of a dialogue have brought, one after the other. -/
def arrivals (ds : Dialogue) : List Bytes :=
  ds.filterMap fun
    | (.read .., .delivered (x :: xs)) => some (x :: xs)
    | _ => none

namespace Exchange

/-- Whether a session holds just the bytes that its reads have brought beyond a message. -/
def Spares (parser : Parser) (ds : Dialogue) (m : Message) (s : Session) : Prop :=
  ∃ consumed, parser (arrivals ds) = .complete consumed m ∧
    consumed ≤ (arrivals ds).flatten.length ∧
      s.buffer.unparsed = (arrivals ds).flatten.drop consumed

/-- How an exchange stands with what its reads have brought. -/
inductive Fed (parser : Parser) (ds : Dialogue) : Exchange → Prop
  | connecting (nothing : arrivals ds = []) : Fed parser ds .connecting
  | sending {s a} (sends : ∀ seen, a ≠ .receiving seen) (nothing : arrivals ds = [])
    (empty : s.buffer.unparsed = []) : Fed parser ds (.acting s a)
  | receiving {s seen} (seen_eq : seen = arrivals ds) (undecided : parser.Undecided seen)
    (empty : s.buffer.unparsed = []) : Fed parser ds (.acting s (.receiving seen))

/-- What an exchange may come to when its reads have brought this. -/
inductive FedTo (parser : Parser) (ds : Dialogue) : Progress → Prop
  | busy {x} (fed : Fed parser ds x) : FedTo parser ds (.busy x)
  | kept {m s} (spares : Spares parser ds m s) : FedTo parser ds (.kept m s)
  | failed (e) : FedTo parser ds (.failed e)
  | connected (s) : FedTo parser ds (.connected s)
  | told : FedTo parser ds .told
  | answered (m) : FedTo parser ds (.answered m)

section Feeding
variable {parser : Parser} {peer : Peer} {purpose : Purpose} {request b : Bytes} {x x' : Exchange}
variable {ds more : Dialogue} {s : Session} {m : Message} {act : Act} {a : Answer}

@[simp] theorem arrivals_append : arrivals (ds ++ more) = arrivals ds ++ arrivals more := by
  simp [arrivals]

theorem arrivals_read (c : ConnId) (most : Nat) (x : Delivery) :
    arrivals [(.read c most, x.answer)] = x.section?.toList := by
  cases x with
  | failed => rfl
  | bytes b => cases b <;> rfl

theorem sends_sending (b : Bytes) : ∀ seen, sending b ≠ .receiving seen := by
  intro seen
  unfold sending
  split <;> nofun

theorem fed_received {r : Receiving} (h : r.Faithful parser) (hs : r.sections = arrivals ds) :
    FedTo parser ds (follow purpose (s.ofReceiving r)).1 := by
  cases h with
  | reading undecided empty => exact .busy (.receiving hs undecided empty)
  | @found b before last consumed m undecided answer ends kept =>
    have hsections : before ++ [last] = arrivals ds := hs
    have hspares : Spares parser ds m { s with buffer := b } :=
      ⟨consumed, hsections ▸ answer, hsections ▸ ends.2, hsections ▸ kept⟩
    simp only [Session.ofReceiving, follow]
    split
    · exact .kept hspares
    · exact .answered m
  | overreached | broken | unread => exact .failed _

/-- An act that sends goes on to the next one, and then the reads begin. -/
theorem fed_sent (hact : ∀ seen, act ≠ .receiving seen) (hds : arrivals ds = [])
    (hempty : s.buffer.unparsed = []) (ha : ((s.demand act).record? a).isSome = true) :
    FedTo parser ds (follow purpose (s.resume parser act a).1).1 := by
  cases act with
  | receiving seen => exact (hact seen rfl).elim
  | writing rest =>
    cases a with
    | accepted n =>
      cases n with
      | zero => exact .failed _
      | succ n => exact .busy (.sending (sends_sending (rest.drop (n + 1))) hds hempty)
    | failed => exact .failed _
    | connected | done | delivered => cases ha
  | flushing =>
    cases a with
    | done =>
      simp only [Session.resume, follow]
      split
      · exact .told
      · exact .busy (.sending (by simp) hds hempty)
    | failed => exact .failed _
    | connected | accepted | delivered => cases ha
  | finishing =>
    cases a with
    | done => exact .busy (.receiving hds.symm undecided_nil hempty)
    | failed => exact .failed _
    | connected | accepted | delivered => cases ha

theorem Fed.resume (h : Fed parser ds x) (ha : ((x.demand peer).record? a).isSome = true) :
    FedTo parser (ds ++ [(x.demand peer, a)])
      (Exchange.resume parser peer purpose request x a).1 := by
  cases h with
  | connecting nothing =>
    cases a with
    | connected c =>
      by_cases hpurpose : purpose = .connect
      · simp only [Exchange.resume, hpurpose, if_true]
        exact .connected _
      · have hopens : (Exchange.resume parser peer purpose request .connecting (.connected c)).1 =
            .busy (.acting (opened peer c) (Exchange.sending request)) := by
          simp only [Exchange.resume, hpurpose, if_false]
          rfl
        rw [hopens]
        exact .busy (.sending (sends_sending request) (by simpa using ⟨nothing, rfl⟩) rfl)
    | failed reason => exact .failed _
    | accepted | done | delivered => cases ha
  | @sending s act sends nothing empty =>
    refine fed_sent sends ?_ empty ha
    cases act with
    | receiving seen => exact (sends seen rfl).elim
    | writing | flushing | finishing => simpa using ⟨nothing, rfl⟩
  | @receiving s seen seen_eq undecided empty =>
    obtain ⟨y, rfl⟩ := exists_delivery ha
    rw [resume_read]
    refine fed_received (faithful_deliver undecided empty) ?_
    rw [sections_deliver, arrivals_append, seen_eq]
    exact congrArg _ (arrivals_read _ _ y).symm

/-- An exchange that keeps its session has left in it what its reads brought beyond the message. -/
theorem Fed.run (h : Fed parser ds x)
    (hrun : Exchange.run parser peer purpose request x more = some (.kept m s)) :
    Spares parser (ds ++ more) m s := by
  induction more generalizing ds x with
  | nil => cases hrun
  | cons said rest ih =>
    obtain ⟨d, a⟩ := said
    obtain ⟨rfl, ha, hgoes⟩ := run_cons hrun
    have hfed : FedTo parser (ds ++ [(x.demand peer, a)])
        (Exchange.resume parser peer purpose request x a).1 := h.resume ha
    obtain ⟨x', hx, hrest⟩ | ⟨rfl, hkept⟩ := hgoes
    · rw [hx] at hfed
      cases hfed with
      | busy fed => simpa using ih fed hrest
    · rw [hkept] at hfed
      cases hfed with
      | kept spares => exact spares

end Feeding
end Exchange

/-- Whether a deed enters an open session under an id that is free, and does nothing else. -/
structure Desk.Deed.Enters (x : Desk.Deed) (subscription : String) (s : Session) : Prop where
  free : x.before.has subscription = false
  isOpen : s.isOpen = true
  enters : x.after = { x.before with
    sessions := x.before.sessions ++ [{ session := s }]
    subscriptions := x.before.subscriptions ++ [(subscription, x.before.sessions.length)] }

namespace Desk

/-- How a call that subscribes has left the client in a run: as it was, or with its entry. -/
inductive Enrolled (d : Desk) (k : CallId) (request : Bytes) :
    List Move → List Deed → CallStatus → Prop
  | outside {moves l st} (idle : ∀ x ∈ l, x.after = x.before) (unsaid : ∀ m, st ≠ .done (.message m)) :
    Enrolled d k request moves l st
  | inside {before after l x m subscription s} (idle : ∀ y ∈ l, y.after = y.before)
    (deed : (d.moveAll before).deed? k (.step k) = some x) (silent : x.said = none)
    (enters : x.Enters subscription s) (named : m.subscription = some subscription)
    (run : Exchange.run d.codec.parser d.client.peer .keep request .connecting
      (l.filterMap (·.said)) = some (.kept m s))
    (conn : connection? (l.filterMap (·.said)) = some s.conn)
    (unreturned : ∀ r, ¬ (d.moveAll before).Returned k r)
    (returned : (d.moveAll (before ++ [.step k])).Returned k (.message m)) :
    Enrolled d k request (before ++ .step k :: after) (l ++ [x]) (.done (.message m))

section Enrolling
variable {d : Desk} {j k : CallId} {node : String} {i : UInt32} {o : Operation} {moves : List Move}
variable {request : Bytes} {t : Transaction} {pre : List Move} {l : List Deed} {call : Call}
variable {tr : List Traffic}

theorem purpose_subscribe (node : String) (t : Transaction) :
    (Aim.subscribe node t).purpose ≠ .connect := by
  simp [Aim.purpose]

/-- A step of such a call enters its session, or leaves the client as it is. -/
theorem Enrolled.step (hst : (d.moveAll pre).Stands k (.going call))
    (h : d.Enrolled k request pre l (.going call))
    (hconforms : d.Conforms (.subscribe node t) request l (.going call)) :
    let s := call.step d.codec.parser (d.moveAll pre).client k
    d.Enrolled k request (pre ++ [.step k])
      (l ++ [.ofStep (d.moveAll pre).client none s]) s.status := by
  intro next
  obtain ⟨hdeed, hnext⟩ := hst.step
  rw [codec_moveAll] at hdeed hnext
  unfold Conforms at hconforms
  generalize SpaceGateway.traffic (l.flatMap (·.seen)) = tr at hconforms
  cases h with
  | outside idle =>
    cases hconforms with
    | @underway x run held =>
      have hstatus : next.status = .going (.exchanging (.subscribe node t) request x) := rfl
      rw [hstatus]
      exact .outside (List.forall_mem_append.2 ⟨idle, List.forall_mem_singleton.2 rfl⟩) (by simp)
    | @entering m sub s node t enters run isOpen conn named =>
      cases hhas : (d.moveAll pre).client.has sub with
      | true =>
        have hstatus : next.status = .done (.failed (.subscriptionTaken sub)) := by
          simp [next, Call.step, Client.register, hhas]
        rw [hstatus]
        refine .outside (List.forall_mem_append.2 ⟨idle, List.forall_mem_singleton.2 ?_⟩) (by simp)
        simp [next, Deed.ofStep, Call.step, Client.register, hhas]
      | false =>
        have hstatus : next.status = .done (.message m) := by
          simp [next, Call.step, Client.register, hhas]
        rw [hstatus]
        refine .inside idle hdeed rfl ⟨hhas, isOpen, ?_⟩ named run conn ?_ ?_
        · simp [next, Deed.ofStep, Call.step, Client.register, Client.share, hhas]
        · intro r hr
          cases hst.returned_iff.1 hr
        · rw [moveAll_append]
          exact hnext.returned_iff.2 hstatus

/-- A message that confirms a subscription is not yet a success. -/
theorem unsaid_exchanged {c : Client} {ds : Dialogue} {p : Exchange.Progress} (m : Message)
    (h : Exchange.Reaches .keep ds p tr) :
    (Call.exchanged c (.subscribe node t) request p).status ≠ .done (.message m) := by
  cases h with
  | busy | failed | told => simp [Call.exchanged]
  | answered gives => exact (gives rfl).elim
  | @kept m' s =>
    simp only [Call.exchanged]
    repeat' split
    all_goals simp

/-- An answer leaves the client as it is. -/
theorem Enrolled.resume (h : d.Enrolled k request pre l (.going call)) (a : Answer)
    (hconforms : d.Conforms (.subscribe node t) request l (.going call)) :
    let s := call.resume d.codec.parser (d.moveAll pre).client k a
    d.Enrolled k request (pre ++ [.resume k a])
      (l ++ [.ofStep (d.moveAll pre).client (call.said? (d.moveAll pre).client k a) s])
      s.status := by
  intro next
  unfold Conforms at hconforms
  generalize SpaceGateway.traffic (l.flatMap (·.seen)) = tr at hconforms
  cases h with
  | outside idle =>
    cases hconforms with
    | @underway x run held =>
      refine .outside (List.forall_mem_append.2 ⟨idle, List.forall_mem_singleton.2 ?_⟩) fun m => ?_
      · simp [next, Deed.ofStep, Call.resume, Step.after]
      · simp only [next, Call.resume, Step.after, peer_moveAll]
        by_cases ha : ((x.demand d.client.peer).record? a).isSome = true
        · exact unsaid_exchanged m (held.reaches (by simp) ha)
        · rw [exchange_unfit (by simpa using ha)]
          simp [Call.exchanged]
    | @entering m sub s node t enters run isOpen conn named =>
      have hstatus : next.status = .going (.registering m sub s) := rfl
      rw [hstatus]
      exact .outside (List.forall_mem_append.2 ⟨idle, List.forall_mem_singleton.2 rfl⟩) (by simp)

/-- What a call that subscribes has done in a run, if its request could be built. -/
theorem Makes.enrolled (h : d.Makes k (.subscribe node i o) moves)
    (hbuild : d.codec.build ⟨d.client.peer.space, node, i, o⟩ = .ok request) :
    ∃ st, (d.Conforms (.subscribe node o.transaction) request (d.deeds k moves) st ∧
      d.Enrolled k request moves (d.deeds k moves) st) ∧ (d.moveAll moves).Stands k st := by
  have hcall : Call.ofCommand d.codec d.client.peer (.subscribe node i o) =
      .ok (.exchanging (.subscribe node o.transaction) request .connecting) := by
    simp only [Call.ofCommand, hbuild]
    rfl
  refine h.induction (P := fun pre l st => d.Conforms (.subscribe node o.transaction) request l st ∧
    d.Enrolled k request pre l st) hcall ?_ ?_ ?_ ?_
  · intro pre
    have hidle : ∀ x ∈ [Deed.ofStep (d.moveAll pre).client none
        (Call.begin (d.moveAll pre).client
          (.exchanging (.subscribe node o.transaction) request .connecting))],
        x.after = x.before := by
      simp [Deed.ofStep, Call.begin]
    exact ⟨.underway rfl (.connecting rfl), .outside hidle (by simp [Call.begin])⟩
  · rintro pre l call hst ⟨hconforms, henrolled⟩
    exact ⟨hconforms.step, henrolled.step hst hconforms⟩
  · rintro pre l call a - ⟨hconforms, henrolled⟩
    exact ⟨hconforms.resume (purpose_subscribe node _) a, henrolled.resume a hconforms⟩
  · rintro pre l st mv ⟨hconforms, henrolled⟩
    refine ⟨hconforms, ?_⟩
    cases henrolled with
    | outside idle unsaid => exact .outside idle unsaid
    | inside idle deed silent enters named run conn unreturned returned =>
      rw [List.append_assoc, List.cons_append]
      exact .inside idle deed silent enters named run conn unreturned returned

theorem Deed.Enters.has {x : Deed} {sub : String} {s : Session} (h : x.Enters sub s) :
    x.after.has sub = true := by
  rw [h.enters, Client.has_iff]
  simp [Client.subscribed]

/-- When a call that succeeds has entered its subscription. -/
theorem Enrolled.entry {m : Message} {sub : String} (hsub : m.subscription = some sub)
    (h : d.Enrolled k request moves l (.done (.message m))) :
    ∃ before after, moves = before ++ .step k :: after ∧
      (d.moveAll before).client.has sub = false ∧
      (d.moveAll (before ++ [.step k])).client.has sub = true ∧
      (∀ r, ¬ (d.moveAll before).Returned k r) ∧
      (d.moveAll (before ++ [.step k])).Returned k (.message m) := by
  cases h with
  | outside idle unsaid => exact (unsaid m rfl).elim
  | inside idle deed silent enters named run conn unreturned returned =>
    obtain rfl := Option.some.inj (hsub.symm.trans named)
    obtain ⟨hbefore, hafter⟩ := deed?_clients deed
    refine ⟨_, _, rfl, hbefore ▸ enters.free, ?_, unreturned, returned⟩
    rw [moveAll_append, moveAll_cons, moveAll_nil, ← hafter]
    exact enters.has

/-- An id that is no longer registered was taken out by some move. -/
theorem exists_drop {sub : String} (hyes : d.client.has sub = true)
    (hno : (d.moveAll moves).client.has sub = false) :
    ∃ before mv after, moves = before ++ mv :: after ∧ (d.moveAll before).client.has sub = true ∧
      (d.moveAll (before ++ [mv])).client.has sub = false := by
  induction moves generalizing d with
  | nil => simp [hyes] at hno
  | cons mv rest ih =>
    cases hmv : (d.move mv).client.has sub with
    | false => exact ⟨[], mv, rest, rfl, hyes, hmv⟩
    | true =>
      obtain ⟨before, mv', after, rfl, hbefore, hafter⟩ := ih hmv hno
      exact ⟨mv :: before, mv', after, rfl, hbefore, hafter⟩

/-- A call that enters an id after another does so only when that has been taken out. -/
theorem dropped_between {before between : List Move} {sub : String} {m : Message}
    (hentered : (d.moveAll (before ++ [.step k])).client.has sub = true)
    (hreturned : (d.moveAll (before ++ [.step k])).Returned k (.message m))
    (hfree : (d.moveAll (before ++ .step k :: between)).client.has sub = false)
    (hwaits : ∀ r, ¬ (d.moveAll (before ++ .step k :: between)).Returned j r)
    (after : List Move) :
    ∃ l mv l', before ++ .step k :: between ++ after = l ++ mv :: l' ∧
      (d.moveAll l).client.has sub = true ∧ (d.moveAll (l ++ [mv])).client.has sub = false ∧
      (∃ r, (d.moveAll l).Returned k r) ∧ ∀ r, ¬ (d.moveAll l).Returned j r := by
  have hsplit : before ++ .step k :: between = (before ++ [.step k]) ++ between := by simp
  rw [hsplit] at hfree hwaits ⊢
  generalize before ++ [.step k] = run at *
  rw [moveAll_append] at hfree hwaits
  obtain ⟨l, mv, l', rfl, hyes, hno⟩ := exists_drop hentered hfree
  refine ⟨run ++ l, mv, l' ++ after, by simp, by simpa using hyes, by simpa using hno,
    ⟨_, by simpa using hreturned.moveAll⟩, fun r hr => hwaits r ?_⟩
  rw [moveAll_append] at hr ⊢
  exact hr.moveAll

end Enrolling

/-- What a call that subscribes brings about in a run. -/
structure Enrols (d : Desk) (k : CallId) (moves : List Move) : Prop where
  /-- A call that fails has never changed the client, and has given up the connection that it opened,
  if it opened one, and no other. -/
  failed : ∀ e, (d.moveAll moves).Returned k (.failed e) →
    (∀ x ∈ d.deeds k moves, x.after = x.before) ∧
      closings (d.traffic k moves) = openings (d.traffic k moves)
  /-- A call that succeeds has changed the client by its last deed only, which has entered the session
  of its connection. That holds all that the connection has brought beyond the confirmation. -/
  succeeded : ∀ m, (d.moveAll moves).Returned k (.message m) →
    ∃ l x subscription s, d.deeds k moves = l ++ [x] ∧ (∀ y ∈ l, y.after = y.before) ∧
      m.subscription = some subscription ∧ x.Enters subscription s ∧
      openings (d.traffic k moves) = [s.conn] ∧ closings (d.traffic k moves) = [] ∧
      Exchange.Spares d.codec.parser (d.dialogue k moves) m s
  /-- It returns nothing else. -/
  returns : ∀ r, (d.moveAll moves).Returned k r → (∃ e, r = .failed e) ∨ ∃ m, r = .message m
  /-- Of two calls that succeed with one id, one returns only after the entry of the other is gone. -/
  alone : ∀ j node i o m m' subscription, j ≠ k → d.Makes j (.subscribe node i o) moves →
    (d.moveAll moves).Returned k (.message m) → (d.moveAll moves).Returned j (.message m') →
    m.subscription = some subscription → m'.subscription = some subscription →
    ∃ before mv after, moves = before ++ mv :: after ∧
      (d.moveAll before).client.has subscription = true ∧
      (d.moveAll (before ++ [mv])).client.has subscription = false ∧
      ((∃ r, (d.moveAll before).Returned k r) ↔ ∀ r, ¬ (d.moveAll before).Returned j r)

section Enrolling
variable {d : Desk} {j k : CallId} {node : String} {i : UInt32} {o : Operation} {moves : List Move}
variable {request : Bytes}

theorem Makes.enrols_failed {e : Error} (h : d.Makes k (.subscribe node i o) moves)
    (hr : (d.moveAll moves).Returned k (.failed e)) :
    (∀ x ∈ d.deeds k moves, x.after = x.before) ∧
      closings (d.traffic k moves) = openings (d.traffic k moves) := by
  cases hbuild : d.codec.build ⟨d.client.peer.space, node, i, o⟩ with
  | error f =>
    obtain ⟨⟨c, hdeeds⟩, -⟩ := h.unbuilt (ofCommand_unbuilt rfl hbuild)
    rw [traffic, hdeeds]
    exact ⟨by simp, rfl⟩
  | ok request =>
    obtain ⟨st, ⟨hconforms, henrolled⟩, hst⟩ := h.enrolled hbuild
    obtain rfl := hst.returned_iff.1 hr
    refine ⟨?_, Call.Conducts.failed hconforms (purpose_subscribe node _)⟩
    generalize d.deeds k moves = l at henrolled
    cases henrolled with
    | outside idle => exact idle

/-- A call that succeeds has built its request, and has its entry. -/
theorem Makes.entered {m : Message} (h : d.Makes k (.subscribe node i o) moves)
    (hr : (d.moveAll moves).Returned k (.message m)) :
    ∃ request, d.Conforms (.subscribe node o.transaction) request (d.deeds k moves)
        (.done (.message m)) ∧
      d.Enrolled k request moves (d.deeds k moves) (.done (.message m)) := by
  cases hbuild : d.codec.build ⟨d.client.peer.space, node, i, o⟩ with
  | error f =>
    obtain ⟨-, hst⟩ := h.unbuilt (ofCommand_unbuilt rfl hbuild)
    cases hst.returned_iff.1 hr
  | ok request =>
    obtain ⟨st, ⟨hconforms, henrolled⟩, hst⟩ := h.enrolled hbuild
    obtain rfl := hst.returned_iff.1 hr
    exact ⟨request, hconforms, henrolled⟩

theorem Makes.enrols_succeeded {m : Message} (h : d.Makes k (.subscribe node i o) moves)
    (hr : (d.moveAll moves).Returned k (.message m)) :
    ∃ l x subscription s, d.deeds k moves = l ++ [x] ∧ (∀ y ∈ l, y.after = y.before) ∧
      m.subscription = some subscription ∧ x.Enters subscription s ∧
      openings (d.traffic k moves) = [s.conn] ∧ closings (d.traffic k moves) = [] ∧
      Exchange.Spares d.codec.parser (d.dialogue k moves) m s := by
  obtain ⟨request, hconforms, henrolled⟩ := h.entered hr
  obtain ⟨hopened, hclosed⟩ := Call.Conducts.succeeded hconforms rfl rfl
  unfold traffic dialogue
  generalize d.deeds k moves = l at *
  cases henrolled with
  | outside idle unsaid => exact (unsaid m rfl).elim
  | @inside before after l x m sub s idle deed silent enters named run conn =>
    have hsaid : (l ++ [x]).filterMap (·.said) = l.filterMap (·.said) := by simp [silent]
    rw [hsaid] at hopened ⊢
    rw [conn] at hopened
    refine ⟨l, x, sub, s, rfl, idle, named, enters, hopened, hclosed, ?_⟩
    have hfed : Exchange.Fed d.codec.parser [] .connecting := .connecting rfl
    simpa using hfed.run run

theorem Makes.enrols_alone {i' : UInt32} {o' : Operation} {node' subscription : String}
    {m m' : Message} (hk : d.Makes k (.subscribe node i o) moves) (hne : j ≠ k)
    (hj : d.Makes j (.subscribe node' i' o') moves)
    (hrk : (d.moveAll moves).Returned k (.message m))
    (hrj : (d.moveAll moves).Returned j (.message m'))
    (hm : m.subscription = some subscription) (hm' : m'.subscription = some subscription) :
    ∃ before mv after, moves = before ++ mv :: after ∧
      (d.moveAll before).client.has subscription = true ∧
      (d.moveAll (before ++ [mv])).client.has subscription = false ∧
      ((∃ r, (d.moveAll before).Returned k r) ↔ ∀ r, ¬ (d.moveAll before).Returned j r) := by
  obtain ⟨_, -, henrolled⟩ := hk.entered hrk
  obtain ⟨_, -, henrolled'⟩ := hj.entered hrj
  obtain ⟨bk, ak, hmovesk, hfreek, hhask, hwaitk, hretk⟩ := henrolled.entry hm
  obtain ⟨bj, aj, hmovesj, hfreej, hhasj, hwaitj, hretj⟩ := henrolled'.entry hm'
  -- whichever of the two has entered the id first
  rcases List.append_eq_append_iff.1 (hmovesk.symm.trans hmovesj) with ⟨c, hb, hc⟩ | ⟨c, hb, hc⟩
  · cases c with
    | nil => cases hc; exact (hne rfl).elim
    | cons mv c =>
      obtain ⟨rfl, hak⟩ := List.cons.inj hc
      subst hb
      obtain ⟨l, mv, l', hl, hyes, hno, hret, hwait⟩ :=
        dropped_between hhask hretk hfreej hwaitj (.step j :: aj)
      exact ⟨l, mv, l', hmovesj.trans hl, hyes, hno, fun _ => hwait, fun _ => hret⟩
  · cases c with
    | nil => cases hc; exact (hne rfl).elim
    | cons mv c =>
      obtain ⟨rfl, haj⟩ := List.cons.inj hc
      subst hb
      obtain ⟨l, mv, l', hl, hyes, hno, ⟨r, hret⟩, hwait⟩ :=
        dropped_between hhasj hretj hfreek hwaitk (.step k :: ak)
      exact ⟨l, mv, l', hmovesk.trans hl, hyes, hno, fun ⟨r', hr'⟩ => (hwait r' hr').elim,
        fun hno => (hno r hret).elim⟩

theorem Makes.enrols_returns {r : CallResult} (h : d.Makes k (.subscribe node i o) moves)
    (hr : (d.moveAll moves).Returned k r) : (∃ e, r = .failed e) ∨ ∃ m, r = .message m := by
  cases hbuild : d.codec.build ⟨d.client.peer.space, node, i, o⟩ with
  | error f =>
    obtain ⟨-, hst⟩ := h.unbuilt (ofCommand_unbuilt rfl hbuild)
    cases hst.returned_iff.1 hr
    exact .inl ⟨_, rfl⟩
  | ok request =>
    obtain ⟨st, ⟨hconforms, -⟩, hst⟩ := h.enrolled hbuild
    obtain rfl := hst.returned_iff.1 hr
    obtain ⟨out, -, hreports, -⟩ := Call.Conducts.returned hconforms (purpose_subscribe node _)
    cases out with
    | error e => exact .inl ⟨e, hreports⟩
    | ok m? =>
      cases m? with
      | none => exact hreports.elim
      | some m => exact (Or.symm hreports).imp id fun hm => ⟨m, hm⟩

/-- Whatever state a client is in and whatever else it does, a call that subscribes either adds one
entry to its table, under an id that is free, or adds, changes and closes nothing but a connection of
its own. -/
theorem subscribe_all_or_nothing (h : d.Makes k (.subscribe node i o) moves) : d.Enrols k moves where
  failed _ hr := h.enrols_failed hr
  succeeded _ hr := h.enrols_succeeded hr
  returns _ hr := h.enrols_returns hr
  alone _ _ _ _ _ _ _ hne hj hrk hrj hm hm' := h.enrols_alone hne hj hrk hrj hm hm'

/-- A client that is told to subscribe twice, and each time gets the same id. -/
def twiceTheSame : List Move := subscribing 0 0 0 ++ subscribing 1 1 0

theorem subscribe_all_or_nothing_of_taken_id :
    let d := opening (spelling "s" "s") ⟨"space", ⟨"host", 1⟩, 64⟩
    d.Makes 1 (.subscribe "node" 1 (.subscribe .template "<a> * *")) twiceTheSame ∧
      d.Enrols 1 twiceTheSame ∧ (∃ e, (d.moveAll twiceTheSame).Returned 1 (.failed e)) ∧
      closings (d.traffic 1 twiceTheSame) = openings (d.traffic 1 twiceTheSame) := by
  intro d
  have hmakes : d.Makes 1 (.subscribe "node" 1 (.subscribe .template "<a> * *")) twiceTheSame :=
    .of_opening rfl
  have hfails : (d.moveAll twiceTheSame).finished.any
      (fun x => x.id = 1 && x.result.isFailed) = true := by decide +kernel
  obtain ⟨x, hx, hfails⟩ := List.any_eq_true.1 hfails
  obtain ⟨hid, hfailed⟩ := Bool.and_eq_true_iff.1 hfails
  obtain ⟨e, he⟩ := CallResult.isFailed_iff.1 hfailed
  have hreturned : (d.moveAll twiceTheSame).Returned 1 (.failed e) :=
    ⟨x, hx, of_decide_eq_true hid, he⟩
  have henrols := subscribe_all_or_nothing hmakes
  exact ⟨hmakes, henrols, ⟨e, hreturned⟩, (henrols.failed e hreturned).2⟩

example : let d := opening (spelling "s" "s") ⟨"space", ⟨"host", 1⟩, 64⟩
    (d.moveAll twiceTheSame).client.subscriptions = [("s", 0)] ∧
      openings (d.traffic 1 twiceTheSame) = [1] := by
  decide +kernel

end Enrolling
end Desk
end SpaceGateway
