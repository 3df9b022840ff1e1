import SpaceGateway.Proofs.Frames
import SpaceGateway.Proofs.Obligation
import SpaceGateway.Proofs.Replies
/-!
Subscriptions by the codec with tags, in a gateway on which anything else may happen. The caller is sent
what the messages on the connection say.
-/
namespace SpaceGateway

/-- Whether a message confirms the subscription that a request asks for, under this name. -/
structure Message.Confirms (m : Message) (r : CallerRequest) (subscription : String) : Prop where
  isConfirm : m.is .subscribe .confirm = true
  node : Identity.same m.node r.node = true
  space : Identity.same m.space r.server = true
  status : m.status = some .success
  named : m.subscription = some subscription

/-- All that the caller of a subscription is to be sent when `c` confirms it and the messages `ms`
follow. -/
def CallerRequest.told (r : CallerRequest) (c : Message) (subscription : String) (ms : List Message) :
    List Reply :=
  .subscribed r.access .ok subscription (c.payload.getD "") ::
    Reply.streamed r.access r.node r.server subscription ms

section Feeds
variable {r : CallerRequest} {sub : String} {c : Message} {ms : List Message} {peer : Peer}

theorem Message.Confirms.confirmed (h : c.Confirms r sub) {space : String}
    (hs : Identity.same space r.server = true) :
    c.confirmed r.node space .subscribe = .ok c := by
  obtain ⟨hc, hn, hspace, hstatus, -⟩ := h
  simp only [Message.is, Bool.and_eq_true, beq_iff_eq] at hc
  have hsp : Identity.same c.space space = true :=
    Identity.same_trans hspace (Identity.same_symm hs)
  simp [Message.confirmed, Message.check, Header.fits, Message.header, Message.accepted,
    Message.isOk, Status.isOk, hc, hn, hsp, hstatus, bind, Except.bind]

/-- What is to come of a subscription by the codec with tags. -/
theorem exists_suits {server : ServerId} {caller : CallerId} (hsub : r.operation.IsSubscribe)
    (hnode : r.node ≠ "") (hc : c.Confirms r sub) (hs : Identity.same peer.space r.server = true)
    (hfree : ∀ m ∈ c :: ms, Framed.TaglessTexts m) :
    ∃ request, Framed.codec.build ⟨peer.space, r.node, r.transactionId, r.operation⟩ = .ok request ∧
      Feed.Suits ⟨request, Framed.stream (c :: ms), c, sub, ms⟩ Framed.codec
        (Framed.parse Json.Fault.message) peer (.ofRequest server caller r) := by
  have hn : r.node.isEmpty = false := by simpa using hnode
  have ht : r.operation.transaction = .subscribe := by
    cases ho : r.operation <;> rw [ho] at hsub <;> first | rfl | exact hsub.elim
  refine ⟨_, by simp only [Framed.codec, Framed.build, hn]; rfl, ?_⟩
  refine ⟨Framed.parser_lawful _, hsub, ?_, ?_, hc.named, Framed.splits_stream hfree⟩
  · simp only [Framed.codec, Framed.build, Task.request, Task.ofRequest, hn]
    rfl
  · simp only [Task.ofRequest, ht]
    exact hc.confirmed hs

theorem told_eq (h : Identity.same peer.space r.server = true) {server : ServerId}
    {caller : CallerId} {request : Bytes} :
    Feed.replies ⟨request, Framed.stream (c :: ms), c, sub, ms⟩ peer (.ofRequest server caller r) =
      r.told c sub ms := by
  simp only [Feed.replies, CallerRequest.told, Task.ofRequest, streamed_congr h]

theorem receiveBuffer_pos {config : Config} (valid : config.validate = .ok ()) :
    0 < config.receiveBuffer.toNat := by
  unfold Config.validate at valid
  split at valid
  · cases valid
  · split at valid
    · cases valid
    · rename_i hsmall
      have h64 : (64 : UInt64).toNat ≤ config.receiveBuffer.toNat := by
        simpa [UInt64.lt_iff_toNat_lt] using hsmall
      exact Nat.lt_of_lt_of_le (by decide) h64

end Feeds

namespace Ledger

/-- What has become of the subscription that a request asks for, when `c` confirms it and the messages
`ms` follow. -/
structure Streams (l : Ledger) (k : Ticket) (o : Order) (c : Message) (subscription : String)
    (ms : List Message) : Prop where
  replies : ∃ rs, l.repliesOf k = rs.map (o.caller, ·) ∧ rs <+: o.request.told c subscription ms
  /-- A task that runs can make a step, unless it finds the subscription taken. -/
  goesOn : k ∈ l.running → ∃ w, l.hands w = some k ∧ (l.gateway.findsTaken w = false →
    ∃ mv, mv.worker? = some w ∧ l.Allows mv ∧ l.Obliges k (Framed.stream (c :: ms)) mv)
  /-- It makes only so many steps. -/
  ends : ∃ space request, Identity.same space o.request.server = true ∧
    Framed.codec.build ⟨space, o.request.node, o.request.transactionId, o.request.operation⟩ =
      .ok request ∧
    (l.inputs k).length ≤
      request.length + (Framed.stream (c :: ms)).length + 4 * ms.length + 12
  /-- It comes to its end when no other task has entered its subscription. -/
  completes : k ∈ l.running → (∀ S, o.server = some S → l.Unclaimed k S subscription) →
    ∃ l', Run (Obliges k (Framed.stream (c :: ms))) l l' ∧ k ∈ l'.released
  replied : k ∈ l.released → l.repliesOf k = (o.request.told c subscription ms).map (o.caller, ·)
  closed : k ∈ l.released → ∃ id, l.openedBy k = [id] ∧ l.closed.count id = 1
  unlisted : k ∈ l.released → ∀ e, (k, e) ∈ l.entered → e ∉ l.gateway.listings
  workerFree : k ∈ l.released → ∀ w, l.hands w ≠ some k

section Streams
variable {l : Ledger} {k : Ticket} {o : Order} {c : Message} {subscription : String}
variable {ms : List Message} {config : Config}

/-- The caller of a subscription is sent what the messages on its connection say, up to its end, however
their bytes are cut and whatever else happens on the gateway. A subscription is entered only if it is
free when its task comes to enter it. -/
theorem stream_of_subscription (valid : config.validate = .ok ())
    (run : Run (Obliges k (Framed.stream (c :: ms))) (start Framed.codec config) l)
    (hk : l.orders[k]? = some o) (accepted : o.server ≠ none)
    (subscribes : o.request.operation.IsSubscribe) (named : o.request.node ≠ "")
    (confirms : c.Confirms o.request subscription)
    (tagless : ∀ m ∈ c :: ms, Framed.TaglessTexts m) : l.Streams k o c subscription ms := by
  have hsound := sound_start.run run
  have hplaced := placed_of_run run
  obtain ⟨S, hS⟩ := Option.ne_none_iff_exists'.1 accepted
  have ht := task_of_order hk hS
  obtain ⟨client, hclient⟩ := hsound.owned.known k _ ht
  have ho := List.mem_of_getElem? hk
  obtain ⟨hspace, hbuffer⟩ := hplaced.client ho hS hclient
  have hpos : 0 < client.peer.receiveBuffer := by
    rw [hbuffer]
    exact receiveBuffer_pos valid
  obtain ⟨request, hbuilt, hx⟩ := exists_suits subscribes named confirms hspace tagless
  have hf := follows_of_run run ht hclient hx
  rw [← hplaced.codec] at hf
  have htold := @told_eq o.request subscription c ms client.peer hspace S o.caller request
  refine ⟨?_, ?_, ?_, ?_, ?_, ?_, ?_, ?_⟩
  · refine ⟨_, hsound.accounts.replied k _ ht, ?_⟩
    rw [course_eq ht hclient, ← htold]
    exact hf.replies_prefix
  · intro hr
    obtain ⟨w, hh⟩ := hsound.worker_of_running hr
    exact ⟨w, hh, hsound.goes_on hh ht hclient hpos hf⟩
  · refine ⟨_, request, hspace, hbuilt, ?_⟩
    have hle := hf.length_le
    simp only [Feed.limit, Feed.rest] at hle
    omega
  · intro hr hu
    exact completes _ run (Nat.le_add_left _ _) hr ht hclient hpos hx (hu S hS)
  · intro hr
    rw [← htold]
    exact (hsound.streamed hr ht hclient hf).1
  · intro hr
    exact (hsound.streamed hr ht hclient hf).2
  · intro hr e he
    exact hsound.unlisted hr he
  · intro hr w hw
    exact ((hsound.tidy.held k).1 ⟨w, hw⟩).2 hr

/-- A server confirms a subscription, and tells of a change. -/
def confirmation : Message :=
  { transaction := .subscribe, role := .confirm, node := "NODE", space := "space",
    status := some .success, subscription := some "s" }

def change : Message :=
  { transaction := .subscribe, role := .indication, node := "node", space := "space",
    subscription := some "s", added := some "more" }

def watch : CallerRequest := ⟨"space", "node", "mark", 1, .subscribe .template "all"⟩

/-- The request that is sent for it. -/
def asksToWatch : Bytes :=
  Framed.frame (Json.object [("node_id", .string "node"),
    ("operation", .object [("op", .string "subscribe"), ("query", .string "all"),
      ("query_type", .string "template")]),
    ("space_id", .string "space"), ("transaction_id", .number 1)]).render

theorem build_watch :
    Framed.codec.build ⟨"space", "node", 1, watch.operation⟩ = .ok asksToWatch := by
  simp [Framed.codec, Framed.build, Framed.body, Framed.byKey, List.mergeSort, watch,
    Operation.members, QueryLanguage.json, QueryLanguage.spelling, asksToWatch]

/-- All that its connection brings. -/
def watched : Bytes := Framed.stream [confirmation, change]

/-- A worker takes the request and sends it in two pieces. The first piece that its connection brings
ends within the confirmation, and the second within the change. It enters the subscription. -/
def beginsToWatch : List Move :=
  [.discover (.added ⟨"space", "", ⟨"host", 1⟩⟩), .request "caller" watch, .work 0,
    .answer 0 (.connected 7), .answer 0 (.accepted 100), .answer 0 (.accepted 54), .answer 0 .done,
    .answer 0 .done, .answer 0 (.delivered (watched.take 100)),
    .answer 0 (.delivered ((watched.drop 100).take 100)), .work 0, .work 0]

/-- The server is removed from those that are known. The connection brings the rest and ends. -/
def watchesToTheEnd : List Move :=
  [.discover (.removed "SPACE"), .work 0, .work 0, .answer 0 (.delivered (watched.drop 200)), .work 0,
    .work 0, .work 0, .answer 0 (.delivered []), .work 0, .work 0, .work 0]

/-- On its way the task can come to its end, and there its caller was told of the confirmation and the
change, and nothing is left of the subscription. -/
theorem stream_of_watched_change :
    let o : Order := ⟨"caller", watch, some 0⟩
    let l := (start Framed.codec {}).moveAll beginsToWatch
    let l' := l.moveAll watchesToTheEnd
    (l.Streams 0 o confirmation "s" [change] ∧ 0 ∈ l.running ∧ (0, "s", 0) ∈ l.gateway.listings ∧
      ∃ l₁, Run (Obliges 0 watched) l l₁ ∧ 0 ∈ l₁.released) ∧
    l'.Streams 0 o confirmation "s" [change] ∧ 0 ∈ l'.released ∧
      l'.repliesOf 0 = [("caller", .subscribed "mark" .ok "s" ""),
        ("caller", .changed "mark" 0 "s" "more" ""), ("caller", .unsubscribed "mark" .failed "s")] ∧
      (∃ id, l'.openedBy 0 = [id] ∧ l'.closed.count id = 1) ∧
      (0, 0, "s", 0) ∈ l'.entered ∧ (0, "s", 0) ∉ l'.gateway.listings ∧ l'.hands 0 ≠ some 0 := by
  intro o l l'
  have streams {m : Ledger} (run : Run (Obliges 0 watched) (start Framed.codec {}) m)
      (ho : m.orders[0]? = some o) : m.Streams 0 o confirmation "s" [change] :=
    stream_of_subscription rfl run ho nofun trivial (by decide)
      ⟨by decide, by decide, by decide, rfl, rfl⟩ (by decide)
  -- Sorting the members of a request does not reduce, so the runs are evaluated with the request that
  -- the codec builds written out.
  have hwritten : Framed.codec = { Framed.codec with
      build := Function.update Framed.codec.build ⟨"space", "node", 1, watch.operation⟩
        (.ok asksToWatch) } := by
    rw [← build_watch, Function.update_eq_self]
  have hl : (start Framed.codec {}).AllowsAll (Obliges 0 watched) beginsToWatch ∧
      l.orders[0]? = some o ∧ 0 ∈ l.running ∧ (0, "s", 0) ∈ l.gateway.listings ∧
      ∀ e ∈ l.gateway.listings, (0, e) ∈ l.entered := by
    simp only [l, o]
    rw [hwritten]
    decide +kernel
  have hl' : l.AllowsAll (Obliges 0 watched) watchesToTheEnd ∧ l'.orders[0]? = some o ∧
      0 ∈ l'.released ∧ (0, 0, "s", 0) ∈ l'.entered := by
    simp only [l, l', o]
    rw [hwritten]
    decide +kernel
  obtain ⟨hallowed, ho, hruns, hlisted, hentered⟩ := hl
  obtain ⟨hallowed', ho', hover, hentered'⟩ := hl'
  have hrun := run_moveAll .refl hallowed
  have hs : l.Streams 0 o confirmation "s" [change] := streams hrun ho
  have hs' : l'.Streams 0 o confirmation "s" [change] := streams (run_moveAll hrun hallowed') ho'
  have hunclaimed (S : ServerId) : l.Unclaimed 0 S "s" := fun id hid => hentered _ hid
  exact ⟨⟨hs, hruns, hlisted, hs.completes hruns fun S _ => hunclaimed S⟩, hs', hover,
    (hs'.replied hover).trans (by decide), hs'.closed hover, hentered',
    hs'.unlisted hover _ hentered', hs'.workerFree hover 0⟩

example : watch.told confirmation "s" [change, confirmation, change] =
    [.subscribed "mark" .ok "s" "", .changed "mark" 0 "s" "more" "",
      .unsubscribed "mark" .failed "s"] := by
  rfl

end Streams
end Ledger
end SpaceGateway
