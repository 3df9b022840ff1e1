import Mathlib.Data.List.Nodup
import SpaceGateway.Proofs.Moves
import SpaceGateway.Proofs.Notices
/-!
How a client tells its subscriptions apart. Its table keeps each spelling of an id as an id of its own,
while a message is matched in either ASCII case; so it is the table alone that can make a message
belong to two subscriptions at once.
-/
namespace SpaceGateway

namespace Client
variable {c c' : Client} {node sub sub' : String} {m : Message}

/-- The registered ids. -/
def subscribed (c : Client) : List String := c.subscriptions.map (·.1)

/-- Whether a poll of a subscription accepts a message, as an indication or as its end. -/
def Accepts (c : Client) (node sub : String) (m : Message) : Prop :=
  ∃ n, Notice.classify node c.peer.space sub m = .ok n

/-- Whether a message belongs to at most one registered id, for every node. -/
def IsUnambiguous (c : Client) : Prop :=
  ∀ node m, ∀ s ∈ c.subscribed, ∀ t ∈ c.subscribed, s ≠ t →
    ¬ (c.Accepts node s m ∧ c.Accepts node t m)

/-- What a step can do to the registered ids: nothing, or drop one, or enter one that is not
registered in just that spelling. -/
inductive Relists (c c' : Client) : Prop
  | same (ids : c'.subscribed = c.subscribed)
  | drops (sub : String) (ids : c'.subscribed = c.subscribed.filter (· != sub))
  | enters (sub : String) (free : sub ∉ c.subscribed) (ids : c'.subscribed = c.subscribed ++ [sub])

theorem Accepts.same (h : c.Accepts node sub m) :
    Identity.same (m.subscription.getD "") sub = true := by
  obtain ⟨n, hn⟩ := h
  unfold Notice.classify at hn
  dsimp only at hn
  split at hn
  · cases hn
  · split at hn
    · cases hn
    · rename_i hs
      simpa using hs

/-- A poll accepts what polls of other spellings of its id accept. -/
theorem Accepts.respelled (h : c.Accepts node sub m) (hs : Identity.same sub sub' = true) :
    c.Accepts node sub' m := by
  have hm := h.same
  obtain ⟨n, hn⟩ := h
  have he : Notice.classify node c.peer.space sub' m = Notice.classify node c.peer.space sub m := by
    simp only [Notice.classify, hm, Identity.same_trans hm hs]
    rfl
  exact ⟨n, he.trans hn⟩

/-- The end of a subscription. -/
def ending (c : Client) (node sub : String) : Message :=
  { transaction := .unsubscribe, role := .confirm, node, space := c.peer.space
    subscription := some sub }

theorem accepts_ending (c : Client) (node sub : String) : c.Accepts node sub (c.ending node sub) :=
  ⟨.ended .success, by simp [Notice.classify, ending, Message.check, Header.fits, Message.header]⟩

/-- A message belongs to at most one id just if the ids differ in more than the case of letters. -/
theorem isUnambiguous_iff (h : c.subscribed.Nodup) :
    c.IsUnambiguous ↔ (c.subscribed.map Identity.fold).Nodup := by
  constructor
  · intro hu
    refine (List.nodup_map_iff_inj_on h).2 ?_
    intro s hs t ht he
    by_contra hne
    refine hu "" (c.ending "" s) s hs t ht hne ⟨c.accepts_ending "" s, ?_⟩
    exact (c.accepts_ending "" s).respelled (Identity.same_iff.2 he)
  · rintro hn node m s hs t ht hne ⟨hms, hmt⟩
    have he := Identity.same_trans (Identity.same_symm hms.same) hmt.same
    exact hne ((List.nodup_map_iff_inj_on h).1 hn s hs t ht (Identity.same_iff.1 he))

theorem has_iff : c.has sub = true ↔ sub ∈ c.subscribed := by
  simp [has, find?, subscribed, List.lookup_isSome_iff]

theorem Edits.relists (h : c.Edits c') : c.Relists c' := by
  cases h with
  | same frame => exact .same (congrArg (·.2.map (·.1)) frame)
  | drops sub peer table =>
    exact .drops sub (by simp [subscribed, table, List.filter_map, Function.comp_def])
  | enters sub id free peer table =>
    refine .enters sub (fun hm => ?_) (by simp [subscribed, table])
    rw [has_iff.2 hm] at free
    cases free

end Client

namespace Desk

section Moves
variable {codec : Codec} {peer : Peer} {d : Desk}

/-- Every move drops an id, enters one, or leaves them all. -/
theorem relists_move (d : Desk) (mv : Move) : d.client.Relists (d.move mv).client :=
  (edits_move d mv).relists

/-- No id is registered twice in the same spelling. -/
theorem Reachable.nodup (h : Reachable codec peer d) : d.client.subscribed.Nodup := by
  induction h with
  | opens => exact List.nodup_nil
  | @moves d h mv ih =>
    cases d.relists_move mv with
    | same he =>
      rw [he]
      exact ih
    | drops sub he =>
      rw [he]
      exact ih.filter _
    | enters sub hfree he =>
      rw [he]
      refine List.nodup_append.2 ⟨ih, by simp, ?_⟩
      intro s hs t ht hst
      rw [List.mem_singleton.1 ht] at hst
      exact hfree (hst ▸ hs)

/-- A move makes messages ambiguous only by entering an id that is registered in another spelling. -/
theorem Reachable.respelled (h : Reachable codec peer d) {mv : Move}
    (hu : d.client.IsUnambiguous) (hno : ¬ (d.move mv).client.IsUnambiguous) :
    ∃ s ∈ d.client.subscribed, ∃ t, t ∉ d.client.subscribed ∧ Identity.same s t = true ∧
      (d.move mv).client.subscribed = d.client.subscribed ++ [t] := by
  rw [Client.isUnambiguous_iff h.nodup] at hu
  rw [Client.isUnambiguous_iff (h.moves mv).nodup] at hno
  cases d.relists_move mv with
  | same he =>
    rw [he] at hno
    exact (hno hu).elim
  | drops sub he =>
    rw [he] at hno
    exact (hno (hu.sublist (List.filter_sublist.map _))).elim
  | enters t hfree he =>
    by_contra hnone
    apply hno
    rw [he, List.map_append]
    refine List.nodup_append.2 ⟨hu, by simp, ?_⟩
    intro x hx y hy hxy
    obtain ⟨s, hs, rfl⟩ := List.mem_map.1 hx
    rw [List.map_singleton, List.mem_singleton] at hy
    exact hnone ⟨s, hs, t, hfree, Identity.same_iff.2 (hxy.trans hy), he⟩

/-- In every state that a client can come to, a message belongs to at most one subscription, unless
two ids are registered that differ only in the case of their letters; and it comes to this only when
such an id is entered beside the other. -/
theorem unambiguous_unless_respelled (h : Reachable codec peer d) :
    (d.client.IsUnambiguous ↔ (d.client.subscribed.map Identity.fold).Nodup) ∧
      ∀ mv, d.client.IsUnambiguous → ¬ (d.move mv).client.IsUnambiguous →
        ∃ s ∈ d.client.subscribed, ∃ t, t ∉ d.client.subscribed ∧ Identity.same s t = true ∧
          (d.move mv).client.subscribed = d.client.subscribed ++ [t] :=
  ⟨Client.isUnambiguous_iff h.nodup, fun _ hu hno => h.respelled hu hno⟩

/-- A codec of servers that confirm a subscription by one byte: this spelling of its id, or that. -/
def spelling (this that : String) : Codec :=
  ⟨fun _ => .ok [1], fun sections => .complete 1
    { transaction := .subscribe, role := .confirm, node := "node", space := "space"
      status := some .success, subscription := some (if sections = [[0]] then this else that) }⟩

/-- All that happens to a call whose subscription is confirmed by a byte. -/
def subscribing (id : CallId) (conn : ConnId) (b : UInt8) : List Move :=
  [.start id (.subscribe "node" 1 (.subscribe .template "<a> * *")), .resume id (.connected conn),
    .resume id (.accepted 1), .resume id .done, .resume id .done, .resume id (.delivered [b]),
    .step id]

/-- A client after two subscriptions. -/
def subscribedTwice (this that : String) : Desk :=
  (opening (spelling this that) ⟨"space", ⟨"host", 1⟩, 64⟩).moveAll
    (subscribing 0 0 0 ++ subscribing 1 1 1)

theorem reachable_subscribedTwice (this that : String) :
    Reachable (spelling this that) ⟨"space", ⟨"host", 1⟩, 64⟩ (subscribedTwice this that) :=
  reachable_moveAll .opens _

theorem unambiguous_unless_respelled_of_two_ids :
    (subscribedTwice "sub-1" "sub-2").client.IsUnambiguous ∧
      ¬ (subscribedTwice "sub-1" "SUB-1").client.IsUnambiguous := by
  obtain ⟨happart, -⟩ := unambiguous_unless_respelled (reachable_subscribedTwice "sub-1" "sub-2")
  obtain ⟨halike, -⟩ := unambiguous_unless_respelled (reachable_subscribedTwice "sub-1" "SUB-1")
  rw [happart, halike]
  exact ⟨by decide +kernel, by decide +kernel⟩

/-- The end of one subscription may also be taken for the end of the other. -/
theorem one_message_for_two_subscriptions :
    ¬ ∀ (codec : Codec) (peer : Peer) (d : Desk), Reachable codec peer d →
      ∀ node m, ∀ s ∈ d.client.subscribed, ∀ t ∈ d.client.subscribed, s ≠ t →
        ¬ (d.client.Accepts node s m ∧ d.client.Accepts node t m) := by
  intro h
  have hs : (subscribedTwice "sub-1" "SUB-1").client.subscribed = ["sub-1", "SUB-1"] := by
    decide +kernel
  refine h _ _ _ (reachable_subscribedTwice "sub-1" "SUB-1") "node"
    ((subscribedTwice "sub-1" "SUB-1").client.ending "node" "sub-1") "sub-1" (by simp [hs]) "SUB-1"
    (by simp [hs]) (by decide) ⟨Client.accepts_ending _ _ _, ?_⟩
  exact (Client.accepts_ending _ _ _).respelled (by decide)

end Moves
end Desk
end SpaceGateway
