import SpaceGateway.Proofs.Notices
import SpaceGateway.Proofs.Protocol
import SpaceGateway.Proofs.Stream
/-!
The course of a subscription on such a connection. It sends its replies to the messages, one after the
other, and it comes to its end.
-/
namespace SpaceGateway

/-- What comes of a subscription: its request, the stream that its connection brings, and in it the
confirmation, which names the subscription, and the messages after that. -/
structure Feed where
  request : Bytes
  stream : Bytes
  confirmation : Message
  subscription : String
  messages : List Message

namespace Feed

/-- Whether this may come of a task that subscribes. -/
structure Suits (x : Feed) (codec : Codec) (f : Bytes → ParseOutcome) (peer : Peer) (t : Task) :
    Prop where
  lawful : codec.parser.Lawful f
  subscribes : t.operation.IsSubscribe
  built : codec.build (t.request peer.space) = .ok x.request
  confirmed : x.confirmation.confirmed t.node peer.space t.operation.transaction =
    .ok x.confirmation
  named : x.confirmation.subscription = some x.subscription
  splits : Splits f x.stream (x.confirmation :: x.messages) .peerClosed

/-- All that the caller is to be sent. -/
def replies (x : Feed) (peer : Peer) (t : Task) : List Reply :=
  .subscribed t.access .ok x.subscription (x.confirmation.payload.getD "") ::
    Reply.streamed t.access t.node peer.space x.subscription x.messages

/-- How many inputs the task may yet take after its stage has brought these bytes. -/
def rest (u : Bytes) (ms : List Message) : Nat := u.length + 4 * ms.length

/-- How far a task has come: its connection has yet to bring the bytes `u`, the task has at most `n`
inputs before it, and is to send the replies `todo`. -/
inductive Reaches (x : Feed) (f : Bytes → ParseOutcome) (peer : Peer) (t : Task) :
    Bytes → Nat → Stage → List Reply → Prop
  | queued : Reaches x f peer t x.stream (x.request.length + rest x.stream x.messages + 12) .queued
    (x.replies peer t)
  | connecting : Reaches x f peer t x.stream (x.request.length + rest x.stream x.messages + 11)
    (.calling (.exchanging t.aim x.request .connecting)) (x.replies peer t)
  | writing (s left) (live : s.Live peer) (none : s.buffer.unparsed = []) (some : left ≠ []) :
    Reaches x f peer t x.stream (left.length + rest x.stream x.messages + 10)
      (.calling (.exchanging t.aim x.request (.acting s (.writing left)))) (x.replies peer t)
  | flushing (s) (live : s.Live peer) (none : s.buffer.unparsed = []) :
    Reaches x f peer t x.stream (rest x.stream x.messages + 10)
      (.calling (.exchanging t.aim x.request (.acting s .flushing))) (x.replies peer t)
  | finishing (s) (live : s.Live peer) (none : s.buffer.unparsed = []) :
    Reaches x f peer t x.stream (rest x.stream x.messages + 9)
      (.calling (.exchanging t.aim x.request (.acting s .finishing))) (x.replies peer t)
  | answering (u s seen) (live : s.Live peer) (none : s.buffer.unparsed = [])
    (pending : Pending f seen.flatten)
    (splits : Splits f (seen.flatten ++ u) (x.confirmation :: x.messages) .peerClosed) :
    Reaches x f peer t u (rest u x.messages + 8)
      (.calling (.exchanging t.aim x.request (.acting s (.receiving seen)))) (x.replies peer t)
  | registering (u s) (live : s.Live peer)
    (splits : Splits f (s.buffer.unparsed ++ u) x.messages .peerClosed) :
    Reaches x f peer t u (rest u x.messages + 8)
      (.calling (.registering x.confirmation x.subscription s)) (x.replies peer t)
  | looking (u s ms) (live : s.Live peer) (splits : Splits f (s.buffer.unparsed ++ u) ms .peerClosed) :
    Reaches x f peer t u (rest u ms + 7) (.polling x.subscription .looking s)
      (Reply.streamed t.access t.node peer.space x.subscription ms)
  | approaching (u s ms) (live : s.Live peer)
    (splits : Splits f (s.buffer.unparsed ++ u) ms .peerClosed) :
    Reaches x f peer t u (rest u ms + 6) (.polling x.subscription .approaching s)
      (Reply.streamed t.access t.node peer.space x.subscription ms)
  | waiting (u s ms) (live : s.Live peer) (splits : Splits f (s.buffer.unparsed ++ u) ms .peerClosed) :
    Reaches x f peer t u (rest u ms + 5) (.polling x.subscription .waiting s)
      (Reply.streamed t.access t.node peer.space x.subscription ms)
  | receiving (u s seen ms) (live : s.Live peer) (none : s.buffer.unparsed = [])
    (pending : Pending f seen.flatten) (splits : Splits f (seen.flatten ++ u) ms .peerClosed) :
    Reaches x f peer t u (rest u ms + 4) (.polling x.subscription (.acting (.receiving seen)) s)
      (Reply.streamed t.access t.node peer.space x.subscription ms)
  | closing (u s n r) (live : s.Live peer) (heard : t.heard x.subscription n = r) :
    Reaches x f peer t u 3 (.closing x.subscription n .looking s) [r]
  | retiring (u s n r) (live : s.Live peer) (heard : t.heard x.subscription n = r) :
    Reaches x f peer t u 2 (.closing x.subscription n .approaching s) [r]
  | leaving (u s n r) (live : s.Live peer) (heard : t.heard x.subscription n = r) :
    Reaches x f peer t u 1 (.closing x.subscription n .waiting s) [r]
  | ended (u) : Reaches x f peer t u 0 .ended []

/-- Where a turn may lead: closer to the end, and by the replies that were to be sent. -/
def Leads (x : Feed) (f : Bytes → ParseOutcome) (peer : Peer) (t : Task) (u : Bytes) (n : Nat)
    (todo : List Reply) (next : Turn) : Prop :=
  ∃ n' todo', n' < n ∧ todo = next.replies ++ todo' ∧ x.Reaches f peer t u n' next.stage todo'

section Next
variable {x : Feed} {codec : Codec} {f : Bytes → ParseOutcome} {peer : Peer} {t : Task} {u : Bytes}
variable {n : Nat} {todo : List Reply} {stage : Stage} {s : Session} {ms : List Message}

theorem leads_ended {k : Nat} (hs : s.Live peer) (hk : 3 < k) :
    x.Leads f peer t u k (Reply.streamed t.access t.node peer.space x.subscription [])
      (Stage.progressed t peer.space x.subscription (.failed s .peerClosed)) :=
  ⟨3, _, hk, rfl, .closing u s _ _ hs rfl⟩

/-- Something was received for the subscription. -/
theorem leads_progressed {p : Session.Progress} {k : Nat}
    (h : Session.Receives f peer ms u p) (hk : rest u ms + 4 < k) :
    x.Leads f peer t u k (Reply.streamed t.access t.node peer.space x.subscription ms)
      (Stage.progressed t peer.space x.subscription p) := by
  cases h with
  | more s seen hs hb hp hl => exact ⟨_, _, hk, rfl, .receiving u s seen ms hs hb hp hl⟩
  | ended s hs hms =>
    subst hms
    exact leads_ended hs (by omega)
  | message s m ms' hs hms hl =>
    subst hms
    have hsize : rest u (m :: ms') = rest u ms' + 4 := by
      simp only [rest, List.length_cons]
      omega
    simp only [Stage.progressed, Reply.streamed]
    by_cases hi : m.indicates t.node peer.space x.subscription = true
    · rw [noticed_indicates s hi, if_pos hi]
      exact ⟨rest u ms' + 7, _, by omega, rfl, .looking u s ms' hs hl⟩
    · obtain ⟨n, hn, hheard⟩ := @noticed_last t m peer.space x.subscription s hi
      rw [hn, if_neg hi]
      exact ⟨3, _, by omega, rfl, .closing u s n _ hs hheard⟩

/-- The answer to the request of a subscription. -/
theorem leads_answered (hx : x.Suits codec f peer t) {p : Session.Progress} {k : Nat}
    {ev : List Event} (h : Session.Receives f peer (x.confirmation :: x.messages) u p)
    (hk : rest u x.messages + 8 < k) :
    x.Leads f peer t u k (x.replies peer t)
      (Stage.settled t ((Call.exchanged { peer } t.aim x.request
        (Exchange.follow t.aim.purpose p).1).after ev)) := by
  have ha := aim_eq hx.subscribes
  cases h with
  | more s seen hs hb hp hl => exact ⟨_, _, hk, rfl, .answering u s seen hs hb hp hl⟩
  | ended s hs hms => cases hms
  | message s m ms' hs hms hl =>
    obtain ⟨rfl, rfl⟩ := List.cons.inj hms
    have he : Stage.settled t ((Call.exchanged { peer } t.aim x.request
        (Exchange.follow t.aim.purpose (.received s x.confirmation)).1).after ev) =
          ⟨.calling (.registering x.confirmation x.subscription s), [], traffic ev⟩ := by
      simp [ha, Aim.purpose, Exchange.follow, Call.exchanged, hx.confirmed, hx.named, Step.after,
        Stage.settled]
    rw [he]
    exact ⟨_, _, hk, rfl, .registering u s hs hl⟩

/-- A piece that comes is one that the connection has yet to bring. -/
theorem piece {past b : Bytes} (hpast : past ++ u = x.stream) (h : past ++ b <+: x.stream) :
    ∃ u', u = b ++ u' := by
  rw [← hpast, List.prefix_append_right_inj] at h
  obtain ⟨u', hu⟩ := h
  exact ⟨u', hu.symm⟩

theorem rest_append {b : Bytes} (hb : b ≠ []) : rest u ms < rest (b ++ u) ms := by
  have := List.length_pos_iff.2 hb
  simp only [rest, List.length_append]
  omega

variable {past : Bytes} {i : Input}

/-- While the answer comes. -/
theorem next_answering (hx : x.Suits codec f peer t) {seen : List Bytes} (hs : s.Live peer)
    (hp : Pending f seen.flatten)
    (hl : Splits f (seen.flatten ++ u) (x.confirmation :: x.messages) .peerClosed)
    (hpast : past ++ u = x.stream)
    (hi : Stage.Obliged peer x.stream past
      (.calling (.exchanging t.aim x.request (.acting s (.receiving seen)))) i) :
    ∃ u', u = received [i] ++ u' ∧ x.Leads f peer t u' (rest u x.messages + 8) (x.replies peer t)
      (Stage.next codec peer t
        (.calling (.exchanging t.aim x.request (.acting s (.receiving seen)))) i) := by
  cases i with
  | step free => cases hi.2.1
  | answer a =>
    obtain ⟨d, hd, ha⟩ := hi
    cases hd
    cases ha with
    | delivered _ _ b fits more ends =>
      obtain ⟨u', rfl⟩ := piece hpast more
      by_cases hb : b = []
      · have hu : u' = [] := by
          have := ends hb
          rw [← hpast, hb] at this
          simpa using this
        rw [hb, hu, List.append_nil, List.append_nil] at hl
        cases splits_end hx.lawful hp hl
      · refine ⟨u', by simp [received], ?_⟩
        have hr := receives_delivered hx.lawful hs hp hb hl
        rw [next_exchanging]
        refine leads_answered hx hr ?_
        have := @rest_append u' x.messages b hb
        omega

/-- While the poll waits for bytes. -/
theorem next_receiving (hx : x.Suits codec f peer t) {seen : List Bytes} (hs : s.Live peer)
    (hp : Pending f seen.flatten) (hl : Splits f (seen.flatten ++ u) ms .peerClosed)
    (hpast : past ++ u = x.stream)
    (hi : Stage.Obliged peer x.stream past (.polling x.subscription (.acting (.receiving seen)) s) i) :
    ∃ u', u = received [i] ++ u' ∧ x.Leads f peer t u' (rest u ms + 4)
      (Reply.streamed t.access t.node peer.space x.subscription ms)
      (Stage.next codec peer t (.polling x.subscription (.acting (.receiving seen)) s) i) := by
  cases i with
  | step free => cases hi.2.1
  | answer a =>
    obtain ⟨d, hd, ha⟩ := hi
    cases hd
    cases ha with
    | delivered _ _ b fits more ends =>
      obtain ⟨u', rfl⟩ := piece hpast more
      refine ⟨u', by simp [received], ?_⟩
      by_cases hb : b = []
      · subst hb
        have hu : u' = [] := by
          have := ends rfl
          rw [← hpast] at this
          simpa using this
        rw [hu, List.append_nil, List.append_nil] at hl
        obtain rfl := splits_end hx.lawful hp hl
        exact leads_ended hs (by omega)
      · have hr := receives_delivered hx.lawful hs hp hb hl
        have := @rest_append u' ms b hb
        exact leads_progressed hr (by omega)

theorem purpose_eq (h : t.operation.IsSubscribe) : t.aim.purpose = .keep := isSubscribe_iff.1 h

/-- An exchange that goes on sends no reply. -/
theorem next_busy {y y' : Exchange} {a : Answer}
    (h : (y.resume codec.parser peer t.aim.purpose x.request a).1 = .busy y') :
    ∃ tr, Stage.next codec peer t (.calling (.exchanging t.aim x.request y)) (.answer a) =
      ⟨.calling (.exchanging t.aim x.request y'), [], tr⟩ := by
  rw [next_exchanging]
  dsimp only
  rw [h]
  exact ⟨_, rfl⟩

theorem leads_busy {y : Exchange} (y' : Exchange) {a : Answer} {k : Nat}
    (h : (y.resume codec.parser peer t.aim.purpose x.request a).1 = .busy y') (hk : k < n)
    (hr : x.Reaches f peer t u k (.calling (.exchanging t.aim x.request y')) todo) :
    x.Leads f peer t u n todo
      (Stage.next codec peer t (.calling (.exchanging t.aim x.request y)) (.answer a)) := by
  obtain ⟨tr, hn⟩ := @next_busy x codec peer t y y' a h
  rw [hn]
  exact ⟨k, todo, hk, rfl, hr⟩

theorem next_connecting (hx : x.Suits codec f peer t)
    (hi : Stage.Obliged peer x.stream past (.calling (.exchanging t.aim x.request .connecting)) i) :
    received [i] = [] ∧ x.Leads f peer t x.stream
      (x.request.length + rest x.stream x.messages + 11) (x.replies peer t)
      (Stage.next codec peer t (.calling (.exchanging t.aim x.request .connecting)) i) := by
  have hkeep := purpose_eq hx.subscribes
  cases i with
  | step free => cases hi.2.1
  | answer a =>
    obtain ⟨d, hd, ha⟩ := hi
    cases hd
    cases ha with
    | connected _ c =>
      refine ⟨rfl, ?_⟩
      have hlive : Session.Live peer ⟨c, true, { capacity := peer.receiveBuffer }⟩ := ⟨rfl, rfl⟩
      by_cases hr : x.request = []
      · refine leads_busy (.acting _ .flushing) ?_ ?_ (.flushing _ hlive rfl)
        · simp [Exchange.resume, Session.send, Exchange.follow, hkeep, hr]
        · omega
      · refine leads_busy (.acting _ (.writing x.request)) ?_ ?_
          (.writing _ x.request hlive rfl hr)
        · simp [Exchange.resume, Session.send, Exchange.follow, hkeep, hr]
        · omega

theorem next_writing {left : Bytes} (hs : s.Live peer) (hb : s.buffer.unparsed = [])
    (hne : left ≠ [])
    (hi : Stage.Obliged peer x.stream past
      (.calling (.exchanging t.aim x.request (.acting s (.writing left)))) i) :
    received [i] = [] ∧ x.Leads f peer t x.stream
      (left.length + rest x.stream x.messages + 10) (x.replies peer t)
      (Stage.next codec peer t (.calling (.exchanging t.aim x.request (.acting s (.writing left))))
        i) := by
  cases i with
  | step free => cases hi.2.1
  | answer a =>
    obtain ⟨d, hd, ha⟩ := hi
    cases hd
    cases ha with
    | accepted _ _ n pos fits =>
      refine ⟨rfl, ?_⟩
      obtain ⟨n, rfl⟩ : ∃ m, n = m + 1 := ⟨n - 1, by omega⟩
      have hpos := List.length_pos_iff.2 hne
      by_cases hleft : left.drop (n + 1) = []
      · refine leads_busy (.acting s .flushing) ?_ ?_ (.flushing s hs hb)
        · simp [Exchange.resume, Session.resume, Exchange.follow, hleft]
        · omega
      · refine leads_busy (.acting s (.writing (left.drop (n + 1)))) ?_ ?_
          (.writing s _ hs hb hleft)
        · simp [Exchange.resume, Session.resume, Exchange.follow, hleft]
        · rw [List.length_drop]
          omega

theorem next_flushing (hx : x.Suits codec f peer t) (hs : s.Live peer)
    (hb : s.buffer.unparsed = [])
    (hi : Stage.Obliged peer x.stream past
      (.calling (.exchanging t.aim x.request (.acting s .flushing))) i) :
    received [i] = [] ∧ x.Leads f peer t x.stream (rest x.stream x.messages + 10) (x.replies peer t)
      (Stage.next codec peer t (.calling (.exchanging t.aim x.request (.acting s .flushing))) i) := by
  have hkeep := purpose_eq hx.subscribes
  cases i with
  | step free => cases hi.2.1
  | answer a =>
    obtain ⟨d, hd, ha⟩ := hi
    cases hd
    cases ha with
    | flushed =>
      refine ⟨rfl, leads_busy (.acting s .finishing) ?_ ?_ (.finishing s hs hb)⟩
      · simp [Exchange.resume, Session.resume, Exchange.follow, hkeep]
      · omega

theorem next_finishing (hx : x.Suits codec f peer t) (hs : s.Live peer)
    (hb : s.buffer.unparsed = [])
    (hi : Stage.Obliged peer x.stream past
      (.calling (.exchanging t.aim x.request (.acting s .finishing))) i) :
    received [i] = [] ∧ x.Leads f peer t x.stream (rest x.stream x.messages + 9) (x.replies peer t)
      (Stage.next codec peer t (.calling (.exchanging t.aim x.request (.acting s .finishing))) i) := by
  cases i with
  | step free => cases hi.2.1
  | answer a =>
    obtain ⟨d, hd, ha⟩ := hi
    cases hd
    cases ha with
    | finished =>
      refine ⟨rfl, leads_busy (.acting s (.receiving [])) rfl ?_
        (.answering _ s [] hs hb (.inl rfl) hx.splits)⟩
      omega

/-- A stage that asks nothing of the network makes a step. -/
theorem obliged_step (hd : stage.demand? peer = none)
    (hi : stage.Obliged peer x.stream past i) : ∃ free, i = .step free ∧
      ∀ m subscription s, stage = .calling (.registering m subscription s) → free = true := by
  cases i with
  | step free => exact ⟨free, rfl, hi.2.2⟩
  | answer a =>
    obtain ⟨d, h, -⟩ := hi
    rw [hd] at h
    cases h

/-- Each turn leads closer to the end. -/
theorem Reaches.next (h : x.Reaches f peer t u n stage todo) (hx : x.Suits codec f peer t)
    (hpast : past ++ u = x.stream) (hi : stage.Obliged peer x.stream past i) :
    ∃ u', u = received [i] ++ u' ∧ x.Leads f peer t u' n todo (stage.next codec peer t i) := by
  cases h with
  | queued =>
    obtain ⟨free, rfl, -⟩ := obliged_step rfl hi
    refine ⟨_, rfl, ?_⟩
    simp only [Stage.next, Call.ofCommand_command, hx.built]
    exact ⟨_, _, Nat.lt_succ_self _, rfl, .connecting⟩
  | connecting =>
    obtain ⟨hr, hl⟩ := next_connecting hx hi
    exact ⟨_, by rw [hr]; rfl, hl⟩
  | writing s left hs hb hne =>
    obtain ⟨hr, hl⟩ := @next_writing x codec f peer t s past i left hs hb hne hi
    exact ⟨_, by rw [hr]; rfl, hl⟩
  | flushing s hs hb =>
    obtain ⟨hr, hl⟩ := next_flushing hx hs hb hi
    exact ⟨_, by rw [hr]; rfl, hl⟩
  | finishing s hs hb =>
    obtain ⟨hr, hl⟩ := next_finishing hx hs hb hi
    exact ⟨_, by rw [hr]; rfl, hl⟩
  | answering _ s seen hs _ hp hl => exact next_answering hx hs hp hl hpast hi
  | registering _ s hs hl =>
    obtain ⟨free, rfl, hfree⟩ := obliged_step rfl hi
    obtain rfl := hfree _ _ _ rfl
    refine ⟨u, rfl, rest u x.messages + 7, _, Nat.lt_succ_self _, ?_, .looking u s _ hs hl⟩
    simp [Stage.next, told_subscribed hx.subscribes, hx.named, replies]
  | looking _ s ms hs hl =>
    obtain ⟨free, rfl, -⟩ := obliged_step rfl hi
    exact ⟨u, rfl, _, _, Nat.lt_succ_self _, rfl, .approaching u s ms hs hl⟩
  | approaching _ s ms hs hl =>
    obtain ⟨free, rfl, -⟩ := obliged_step rfl hi
    exact ⟨u, rfl, _, _, Nat.lt_succ_self _, rfl, .waiting u s ms hs hl⟩
  | waiting _ s ms hs hl =>
    obtain ⟨free, rfl, -⟩ := obliged_step rfl hi
    exact ⟨u, rfl, leads_progressed (receives_receive hx.lawful hs hl) (Nat.lt_succ_self _)⟩
  | receiving _ s seen ms hs _ hp hl => exact next_receiving hx hs hp hl hpast hi
  | closing _ s n r hs hr =>
    obtain ⟨free, rfl, -⟩ := obliged_step rfl hi
    exact ⟨u, rfl, 2, _, by omega, rfl, .retiring u s n r hs hr⟩
  | retiring _ s n r hs hr =>
    obtain ⟨free, rfl, -⟩ := obliged_step rfl hi
    exact ⟨u, rfl, 1, _, by omega, rfl, .leaving u s n r hs hr⟩
  | leaving _ s n r hs hr =>
    obtain ⟨free, rfl, -⟩ := obliged_step rfl hi
    subst hr
    exact ⟨u, rfl, 0, _, by omega, rfl, .ended u⟩
  | ended =>
    exfalso
    cases i with
    | step free => exact hi.1 rfl
    | answer a =>
      obtain ⟨d, hd, -⟩ := hi
      cases hd

/-- A task that is over has had a connection. -/
theorem Reaches.opened (h : x.Reaches f peer t u n stage todo) (hx : x.Suits codec f peer t)
    (hi : stage.Obliged peer x.stream past i) (ho : (stage.next codec peer t i).stage = .ended) :
    stage = .ended ∨ stage.session?.isSome ∨ openings (stage.next codec peer t i).traffic ≠ [] := by
  cases h with
  | queued =>
    exfalso
    obtain ⟨free, rfl, -⟩ := obliged_step rfl hi
    simp [Stage.next, Call.ofCommand_command, hx.built, Except.map] at ho
  | connecting =>
    right
    right
    cases i with
    | step free => cases hi.2.1
    | answer a =>
      obtain ⟨d, hd, ha⟩ := hi
      cases hd
      cases ha with
      | connected _ c =>
        have hc := @exchanged_connected codec peer t x.request c
        generalize Stage.next codec peer t _ _ = next at hc
        cases hc <;> simp [openings, Traffic.opening?]
  | ended => exact .inl rfl
  | _ => exact .inr (.inl rfl)

/-- What the task asks of the network can be answered. -/
theorem Reaches.answer (h : x.Reaches f peer t u n stage todo) (hpos : 0 < peer.receiveBuffer)
    (hpast : past ++ u = x.stream) {d : Demand} (hd : stage.demand? peer = some d) (k : ConnId) :
    ∃ a, d.Obliged x.stream past a ∧ ∀ c, a = .connected c → c = k := by
  -- A read brings what is left, as far as there is room for it.
  have hread {s : Session} (hs : s.Live peer) :
      Demand.Obliged x.stream past (.read s.conn s.buffer.capacity)
        (.delivered (u.take s.buffer.capacity)) := by
    refine .delivered _ _ _ (List.length_take_le ..) ?_ ?_
    · rw [← hpast, List.prefix_append_right_inj]
      exact List.take_prefix _ u
    · intro he
      have hcap := hs.capacity
      rcases List.take_eq_nil_iff.1 he with hz | hu
      · omega
      · rw [← hpast, hu, List.append_nil]
  cases h with
  | connecting =>
    cases hd
    exact ⟨_, .connected _ k, fun c hc => (Answer.connected.inj hc).symm⟩
  | writing s left hs hb hne =>
    cases hd
    exact ⟨_, .accepted _ _ left.length (List.length_pos_iff.2 hne) (Nat.le_refl _), nofun⟩
  | flushing =>
    cases hd
    exact ⟨_, .flushed _, nofun⟩
  | finishing =>
    cases hd
    exact ⟨_, .finished _, nofun⟩
  | answering _ s seen hs =>
    cases hd
    exact ⟨_, hread hs, nofun⟩
  | receiving _ s seen ms hs =>
    cases hd
    exact ⟨_, hread hs, nofun⟩
  | _ => cases hd

end Next

/-- The most inputs that such a task takes. -/
def limit (x : Feed) : Nat := x.request.length + rest x.stream x.messages + 12

/-- Whether inputs have led a task on its way. -/
structure Follows (x : Feed) (codec : Codec) (f : Bytes → ParseOutcome) (peer : Peer) (t : Task)
    (inputs : List Input) : Prop where
  reaches : ∃ u n todo, x.Reaches f peer t u n (course codec peer t inputs).stage todo ∧
    received inputs ++ u = x.stream ∧
    (course codec peer t inputs).replies ++ todo = x.replies peer t ∧ inputs.length + n ≤ x.limit
  opened : (course codec peer t inputs).stage = .ended →
    openings (course codec peer t inputs).traffic ≠ []

section Follows
variable {x : Feed} {codec : Codec} {f : Bytes → ParseOutcome} {peer : Peer} {t : Task}
variable {inputs : List Input} {i : Input}

theorem follows_nil : x.Follows codec f peer t [] := by
  refine ⟨⟨x.stream, x.limit, _, .queued, rfl, rfl, by simp⟩, ?_⟩
  intro ho
  cases ho

theorem received_snoc : received (inputs ++ [i]) = received inputs ++ received [i] := by
  simp [received]

theorem Follows.snoc (h : x.Follows codec f peer t inputs) (hx : x.Suits codec f peer t)
    (hi : (course codec peer t inputs).stage.Obliged peer x.stream (received inputs) i) :
    x.Follows codec f peer t (inputs ++ [i]) := by
  obtain ⟨⟨u, n, todo, hr, hpast, hreplies, hn⟩, hopened⟩ := h
  obtain ⟨u', hu, n', todo', hlt, htodo, hr'⟩ := hr.next hx hpast hi
  refine ⟨⟨u', n', todo', ?_, ?_, ?_, ?_⟩, ?_⟩
  · rw [course_snoc]
    exact hr'
  · rw [received_snoc, List.append_assoc, ← hu, hpast]
  · rw [course_snoc]
    simp only [Turn.followedBy]
    rw [List.append_assoc, ← htodo, hreplies]
  · rw [List.length_append, List.length_singleton]
    omega
  · rw [course_snoc]
    simp only [Turn.followedBy, openings_append]
    intro ho he
    obtain ⟨hbefore, hnow⟩ := List.append_eq_nil_iff.1 he
    rcases hr.opened hx hi ho with ho | hs | hnew
    · exact hopened ho hbefore
    · obtain ⟨s, hs⟩ := Option.isSome_iff_exists.1 hs
      have hc := ((course_sound inputs).connected.session hs).2.1
      rw [hc] at hbefore
      cases hbefore
    · exact hnew hnow

theorem Follows.length_le (h : x.Follows codec f peer t inputs) : inputs.length ≤ x.limit := by
  obtain ⟨u, n, todo, -, -, -, hn⟩ := h.reaches
  omega

theorem Follows.replies_prefix (h : x.Follows codec f peer t inputs) :
    (course codec peer t inputs).replies <+: x.replies peer t := by
  obtain ⟨u, n, todo, -, -, hreplies, -⟩ := h.reaches
  exact ⟨todo, hreplies⟩

theorem Follows.replies_over (h : x.Follows codec f peer t inputs)
    (ho : (course codec peer t inputs).stage = .ended) :
    (course codec peer t inputs).replies = x.replies peer t := by
  obtain ⟨u, n, todo, hr, -, hreplies, -⟩ := h.reaches
  rw [ho] at hr
  cases hr
  rwa [List.append_nil] at hreplies

theorem Follows.registering (h : x.Follows codec f peer t inputs) {m : Message} {sub : String}
    {s : Session} (hs : (course codec peer t inputs).stage = .calling (.registering m sub s)) :
    sub = x.subscription := by
  obtain ⟨u, n, todo, hr, -⟩ := h.reaches
  rw [hs] at hr
  cases hr
  rfl

theorem Follows.answer (h : x.Follows codec f peer t inputs) (hpos : 0 < peer.receiveBuffer)
    {d : Demand} (hd : (course codec peer t inputs).stage.demand? peer = some d) (k : ConnId) :
    ∃ a, d.Obliged x.stream (received inputs) a ∧ ∀ c, a = .connected c → c = k := by
  obtain ⟨u, n, todo, hr, hpast, -, -⟩ := h.reaches
  exact hr.answer hpos hpast hd k

end Follows
end Feed
end SpaceGateway
