import SpaceGateway.Proofs.Course
/-!
What the messages on the connection of a subscription mean to its caller.
-/
namespace SpaceGateway

namespace Message

/-- Whether a message is an indication of a subscription. -/
def indicates (m : Message) (node space subscription : String) : Bool :=
  m.is .subscribe .indication && Identity.same m.node node && Identity.same m.space space &&
    Identity.same (m.subscription.getD "") subscription

/-- Whether a message ends a subscription, and does not report a failure. -/
def ends (m : Message) (node space subscription : String) : Bool :=
  (m.is .unsubscribe .confirm || m.is .unsubscribe .indication) && Identity.same m.node node &&
    Identity.same m.space space && Identity.same (m.subscription.getD "") subscription &&
    m.status.all Status.isOk

end Message

/-- What the caller of a subscription is sent because of the messages on its connection, up to the first
that is not an indication of it. -/
def Reply.streamed (access node space subscription : String) : List Message → List Reply
  | [] => [.unsubscribed access .failed subscription]
  | m :: rest =>
    if m.indicates node space subscription then
      .changed access (m.sequence.getD 0) subscription (m.added.getD "") (m.removed.getD "") ::
        streamed access node space subscription rest
    else
      [.unsubscribed access (if m.ends node space subscription then .ok else .failed) subscription]

section Spellings
variable {m : Message} {access node space node' space' sub : String}

theorem same_congr {a b c : String} (h : Identity.same b c = true) :
    Identity.same a b = Identity.same a c := by
  rw [Bool.eq_iff_iff]
  constructor
  · intro hab
    exact Identity.same_trans hab h
  · intro hac
    exact Identity.same_trans hac (Identity.same_symm h)

/-- It does not matter how the space is spelled. -/
theorem streamed_congr (h : Identity.same space space' = true) (ms : List Message) :
    Reply.streamed access node space sub ms = Reply.streamed access node space' sub ms := by
  induction ms with
  | nil => rfl
  | cons m ms ih =>
    have hi : m.indicates node space sub = m.indicates node space' sub := by
      simp only [Message.indicates, same_congr h]
    have he : m.ends node space sub = m.ends node space' sub := by
      simp only [Message.ends, same_congr h]
    simp only [Reply.streamed, hi, he, ih]

end Spellings

section Notices
variable {t : Task} {m : Message} {node space sub : String}

theorem classify_indicates (h : m.indicates node space sub) :
    Notice.classify node space sub m =
      .ok (.indication (m.sequence.getD 0) (m.added.getD "") (m.removed.getD "")) := by
  simp only [Message.indicates, Message.is, Bool.and_eq_true, beq_iff_eq] at h
  obtain ⟨⟨⟨⟨ht, hr⟩, hn⟩, hs⟩, hsub⟩ := h
  simp [Notice.classify, Message.check, Header.fits, Message.header, ht, hr, hn, hs, hsub]

/-- Whether a message is one that ends the subscription, whatever its status. -/
def Message.Concludes (m : Message) (node space sub : String) : Prop :=
  (m.transaction = .unsubscribe ∧ m.role ≠ .request) ∧ Identity.same m.node node = true ∧
    Identity.same m.space space = true ∧ Identity.same (m.subscription.getD "") sub = true

theorem ends_iff : m.ends node space sub = true ↔
    m.Concludes node space sub ∧ (m.status.getD .success).isOk = true := by
  have hstatus : m.status.all Status.isOk = (m.status.getD .success).isOk := by
    cases m.status <;> rfl
  have hrole : (m.is .unsubscribe .confirm || m.is .unsubscribe .indication) = true ↔
      m.transaction = .unsubscribe ∧ m.role ≠ .request := by
    cases h : m.role <;> simp [Message.is, h]
  rw [Message.ends, hstatus]
  simp only [Message.Concludes, Bool.and_eq_true, hrole, and_assoc]

theorem classify_concludes (h : m.Concludes node space sub) :
    Notice.classify node space sub m = .ok (.ended (m.status.getD .success)) := by
  obtain ⟨hends, hn, hs, hsub⟩ := h
  simp [Notice.classify, Message.check, Header.fits, Message.header, hends, hn, hs, hsub]

/-- A message that is neither an indication nor a conclusion is an error. -/
theorem classify_error (h : ¬ m.indicates node space sub) (hno : ¬ m.Concludes node space sub) :
    ∃ e, Notice.classify node space sub m = .error e := by
  unfold Notice.classify
  by_cases hends : m.transaction = .unsubscribe ∧ m.role ≠ .request
  · cases hfits : Identity.same m.node node && Identity.same m.space space with
    | false => simp [Message.check, Header.fits, Message.header, hends, hfits]
    | true =>
      rw [Bool.and_eq_true] at hfits
      have hsub : Identity.same (m.subscription.getD "") sub = false := by
        rw [Bool.eq_false_iff]
        exact fun hsub => hno ⟨hends, hfits.1, hfits.2, hsub⟩
      simp [Message.check, Header.fits, Message.header, hends, hfits, hsub]
  · cases hf : Header.fits ⟨.subscribe, .indication, node, space⟩ m.header with
    | false => simp [Message.check, if_neg hends, hf]
    | true =>
      have hsub : Identity.same (m.subscription.getD "") sub = false := by
        rw [Bool.eq_false_iff]
        intro hsub
        apply h
        simp only [Header.fits, Message.header, Bool.and_eq_true, beq_iff_eq] at hf
        obtain ⟨⟨⟨hn, hs⟩, ht⟩, hr⟩ := hf
        simp [Message.indicates, Message.is, ht, hr, hn, hs, hsub]
      simp [Message.check, if_neg hends, hf, hsub]

/-- A message that is not an indication is the last one that is heard. -/
theorem classify_last (h : ¬ m.indicates node space sub) :
    (Notice.ofResult (Notice.classify node space sub m)).isLast = true ∧
      t.heard sub (Notice.ofResult (Notice.classify node space sub m)) =
        .unsubscribed t.access (if m.ends node space sub then .ok else .failed) sub := by
  by_cases hends : m.Concludes node space sub
  · have he : m.ends node space sub = (m.status.getD .success).isOk := by
      rw [Bool.eq_iff_iff, ends_iff]
      exact and_iff_right hends
    rw [classify_concludes hends, he]
    exact ⟨rfl, rfl⟩
  · have he : ¬ m.ends node space sub = true := fun he => hends (ends_iff.1 he).1
    obtain ⟨e, hc⟩ := classify_error h hends
    rw [hc, if_neg he]
    exact ⟨rfl, rfl⟩

theorem noticed_indicates (s : Session) (h : m.indicates t.node space sub) :
    Stage.noticed t space sub s (.ok m) =
      ⟨.polling sub .looking s,
        [.changed t.access (m.sequence.getD 0) sub (m.added.getD "") (m.removed.getD "")], []⟩ := by
  simp only [Stage.noticed, Except.bind, classify_indicates h]
  rfl

theorem noticed_last (s : Session) (h : ¬ m.indicates t.node space sub) :
    ∃ n, Stage.noticed t space sub s (.ok m) = ⟨.closing sub n .looking s, [], []⟩ ∧
      t.heard sub n =
        .unsubscribed t.access (if m.ends t.node space sub then .ok else .failed) sub := by
  obtain ⟨hlast, hheard⟩ := @classify_last t m t.node space sub h
  exact ⟨_, if_pos hlast, hheard⟩

end Notices

end SpaceGateway
