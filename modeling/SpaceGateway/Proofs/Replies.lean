import SpaceGateway.Codec.Framed
import SpaceGateway.Proofs.Reachability
/-!
The replies to every request. Whatever else the gateway does, they go to the caller who made the
request, and are one of few sequences when the request is rejected or its task is over, or a
beginning of one before that.
-/
namespace SpaceGateway

section Sequences
variable {access : String} {o : Operation} {rs : List Reply} {t : Task} {c : Turn}

/-- Every reply repeats the mark of the request. -/
theorem Answered.access_eq (h : Answered access o rs) : ∀ r ∈ rs, r.access = access := by
  intro r hr
  cases h with
  | subscribed l q s results changes outcome hc =>
    rcases List.mem_cons.1 hr with rfl | hr
    · rfl
    · rcases List.mem_append.1 hr with hr | hr
      · obtain ⟨n, added, removed, rfl⟩ := hc r hr
        rfl
      · rw [List.mem_singleton.1 hr]
        rfl
  | leave | unsubscribe => cases hr
  | _ =>
    rw [List.mem_singleton.1 hr]
    rfl

/-- What a task has sent is a beginning of an answer to its operation. -/
theorem Turn.Sound.replies_extend (h : c.Sound t) :
    ∃ whole, Answered t.access t.operation whole ∧ c.replies <+: whole := by
  have hf := h.fits
  have hr := h.replied
  unfold Turn.Replied at hr
  cases hs : c.stage with rw [hs] at hf hr
  | queued | calling =>
    exact ⟨_, Answered.failure t.access t.operation, hr ▸ List.nil_prefix⟩
  | polling subscription post s =>
    exact ⟨_, @Subscribed.answered _ _ _ _ .ok hr hf, List.prefix_append _ _⟩
  | closing subscription n post s =>
    exact ⟨_, @Subscribed.answered _ _ _ _ .ok hr hf.1, List.prefix_append _ _⟩
  | ended => exact ⟨c.replies, hr, List.prefix_refl _⟩

theorem Turn.Sound.answered (h : c.Sound t) (ho : c.stage = .ended) :
    Answered t.access t.operation c.replies := by
  have hr := h.replied
  rwa [Turn.Replied, ho] at hr

end Sequences

namespace Ledger
variable {codec : Codec} {config : Config} {l : Ledger} {k : Ticket} {o : Order}

/-- The task of a request carries what the request says. -/
theorem task_of_order (hk : l.orders[k]? = some o) {server : ServerId}
    (hs : o.server = some server) :
    l.task? k = some (.ofRequest server o.caller o.request) := by
  simp [task?, hk, Order.task?, hs]

/-- In every state that a gateway can come to, the replies to a request go to its caller and repeat
its mark. If the request was rejected, or its task is over, they answer its operation; and in any
case they are the beginning of an answer. -/
theorem replies_of_request (h : Reachable codec config l) (hk : l.orders[k]? = some o) :
    ∃ rs, l.repliesOf k = rs.map (o.caller, ·) ∧ (∀ r ∈ rs, r.access = o.request.access) ∧
      (o.server = none ∨ k ∈ l.released →
        Answered o.request.access o.request.operation rs) ∧
      ∃ whole, Answered o.request.access o.request.operation whole ∧ rs <+: whole := by
  have hsound := sound_of_reachable h
  cases hs : o.server with
  | none =>
    obtain ⟨hr, -⟩ := hsound.accounts.rejected k o hk hs
    have ha := Answered.failure o.request.access o.request.operation
    exact ⟨_, hr, ha.access_eq, fun _ => ha, _, ha, List.prefix_refl _⟩
  | some server =>
    have ht := task_of_order hk hs
    have hturn := hsound.turn ht
    obtain ⟨whole, hw, hp⟩ := hturn.replies_extend
    refine ⟨(l.course k).replies, hsound.accounts.replied k _ ht, ?_, ?_, whole, hw, hp⟩
    · intro r hr
      exact hw.access_eq r (hp.subset hr)
    · rintro (h | h)
      · cases h
      · exact hturn.answered (hsound.owned.ended k h)

/-- A server is found, a node asks to join, and the server refuses the connection. -/
def refusedJoin : List Move :=
  [.discover (.added ⟨"space", "", ⟨"host", 1⟩⟩),
    .request "caller" ⟨"Space", "node", "mark", 1, .join⟩, .work 0, .answer 0 (.failed "refused")]

theorem replies_of_refused_join :
    let l := (start Framed.codec {}).moveAll refusedJoin
    ∃ rs, l.repliesOf 0 = rs.map ("caller", ·) ∧ (∀ r ∈ rs, r.access = "mark") ∧
      ((some 0 : Option ServerId) = none ∨ 0 ∈ l.released → Answered "mark" .join rs) ∧
      ∃ whole, Answered "mark" .join whole ∧ rs <+: whole := by
  refine @replies_of_request Framed.codec {} _ 0
    ⟨"caller", ⟨"Space", "node", "mark", 1, .join⟩, some 0⟩ (run_moveAll .refl ?_) rfl
  refine ⟨⟨trivial, trivial⟩, ⟨trivial, trivial⟩, ⟨rfl, trivial⟩, ⟨⟨⟨_, rfl⟩, ?_⟩, trivial⟩, trivial⟩
  intro c hc
  cases hc

example : ((start Framed.codec {}).moveAll refusedJoin).repliesOf 0 =
    [("caller", .joined "mark" .failed)] := by
  rfl

end Ledger
end SpaceGateway
