import SpaceGateway.Proofs.Arrival
import SpaceGateway.Proofs.Course
/-!
Connections that take all that is sent and then bring messages, and what a session receives on one
however the bytes are cut.
-/
namespace SpaceGateway

/-- The bytes that the connection of a task has brought. -/
def received (inputs : List Input) : Bytes :=
  inputs.flatMap fun
    | .answer (.delivered b) => b
    | _ => []

/-- How a connection answers that takes all that is sent and brings `stream`, in pieces that are not
empty before it ends. It has brought `past` of it. -/
inductive Demand.Obliged (stream past : Bytes) : Demand → Answer → Prop
  | connected (a c) : Obliged stream past (.connect a) (.connected c)
  | accepted (c b n) (pos : 0 < n) (fits : n ≤ b.length) :
    Obliged stream past (.write c b) (.accepted n)
  | flushed (c) : Obliged stream past (.flush c) .done
  | finished (c) : Obliged stream past (.finish c) .done
  | delivered (c most b) (fits : b.length ≤ most) (more : past ++ b <+: stream)
    (ends : b = [] → past = stream) : Obliged stream past (.read c most) (.delivered b)

instance decidableObliged (stream past : Bytes) (d : Demand) (a : Answer) :
    Decidable (d.Obliged stream past a) :=
  match d, a with
  | .connect _, .connected _ => isTrue (.connected _ _)
  | .write _ b, .accepted n =>
    decidable_of_iff (0 < n ∧ n ≤ b.length)
      ⟨fun h => .accepted _ _ _ h.1 h.2, fun | .accepted _ _ _ pos fits => ⟨pos, fits⟩⟩
  | .flush _, .done => isTrue (.flushed _)
  | .finish _, .done => isTrue (.finished _)
  | .read _ most, .delivered b =>
    decidable_of_iff (b.length ≤ most ∧ past ++ b <+: stream ∧ (b = [] → past = stream))
      ⟨fun h => .delivered _ _ _ h.1 h.2.1 h.2.2,
        fun | .delivered _ _ _ fits more ends => ⟨fits, more, ends⟩⟩
  | .connect _, .accepted _ | .connect _, .done | .connect _, .delivered _ | .connect _, .failed _
  | .write .., .connected _ | .write .., .done | .write .., .delivered _ | .write .., .failed _
  | .flush _, .connected _ | .flush _, .accepted _ | .flush _, .delivered _ | .flush _, .failed _
  | .finish _, .connected _ | .finish _, .accepted _ | .finish _, .delivered _
  | .finish _, .failed _
  | .read .., .connected _ | .read .., .accepted _ | .read .., .done | .read .., .failed _ =>
    isFalse nofun

/-- What a stage asks of the network. -/
def Stage.demand? (peer : Peer) : Stage → Option Demand
  | calling (.exchanging _ _ x) => some (x.demand peer)
  | polling _ (.acting act) s => some (s.demand act)
  | _ => none

/-- Whether an input is one that may come on such a connection. The subscription is free when the task
enters it. -/
def Stage.Obliged (peer : Peer) (stream past : Bytes) (stage : Stage) : Input → Prop
  | .step free => stage ≠ .ended ∧ stage.demand? peer = none ∧
    ∀ m subscription s, stage = .calling (.registering m subscription s) → free = true
  | .answer a => ∃ d, stage.demand? peer = some d ∧ d.Obliged stream past a

theorem obliged_queued {peer : Peer} {stream past : Bytes} (free : Bool) :
    Stage.Obliged peer stream past .queued (.step free) := by
  refine ⟨?_, rfl, ?_⟩
  · intro h
    cases h
  · intro m subscription s h
    cases h

/-- A session of a peer that is open. -/
structure Session.Live (peer : Peer) (s : Session) : Prop where
  isOpen : s.isOpen = true
  capacity : s.buffer.capacity = peer.receiveBuffer

/-- What receiving may come to when the messages `ms` are to come, and the connection has yet to bring
the bytes `u`. -/
inductive Session.Receives (f : Bytes → ParseOutcome) (peer : Peer) (ms : List Message) (u : Bytes) :
    Session.Progress → Prop
  | more (s seen) (live : s.Live peer) (none : s.buffer.unparsed = [])
    (pending : Pending f seen.flatten) (left : Splits f (seen.flatten ++ u) ms .peerClosed) :
    Receives f peer ms u (.busy s (.receiving seen))
  | message (s m rest) (live : s.Live peer) (first : ms = m :: rest)
    (left : Splits f (s.buffer.unparsed ++ u) rest .peerClosed) :
    Receives f peer ms u (.received s m)
  | ended (s) (live : s.Live peer) (none : ms = []) : Receives f peer ms u (.failed s .peerClosed)

section Receiving
variable {p : Parser} {f : Bytes → ParseOutcome} {peer : Peer} {s : Session} {ms : List Message}
variable {a b u : Bytes} {seen : List Bytes}

/-- What the parser makes of the first bytes of such a stream. -/
theorem splits_append (h : p.Lawful f) (hs : Splits f (a ++ u) ms .peerClosed) (ha : a ≠ []) :
    f a = .inProgress ∨ ∃ k m rest, f a = .complete k m ∧ ms = m :: rest ∧
      Splits f (a.drop k ++ u) rest .peerClosed := by
  cases hs with
  | message hf hrest =>
    rename_i k m rest
    rcases Nat.lt_or_ge a.length k with hk | hk
    · exact .inl (h.prefix_short hf hk)
    · rw [List.drop_append_of_le_length hk] at hrest
      exact .inr ⟨k, m, rest, h.prefix_complete hf hk, rfl, hrest⟩
  | ended hf =>
    rcases hf with hf | hf
    · exact (ha (List.append_eq_nil_iff.1 hf).1).elim
    · exact .inl (h.prefix_inProgress hf)

theorem receives_handOver (h : p.Lawful f) (hs : s.Live peer) {b : Buffer}
    (hcap : b.capacity = s.buffer.capacity) (hp : Pending f seen.flatten) (hb : b.unparsed ≠ [])
    (hl : Splits f (seen.flatten ++ b.unparsed ++ u) ms .peerClosed) :
    Session.Receives f peer ms u (s.ofReceiving (b.handOver p seen)) := by
  have hne : seen.flatten ++ b.unparsed ≠ [] := by simp [hb]
  have hlive (b' : Buffer) (hb' : b'.capacity = b.capacity) :
      ({ s with buffer := b' } : Session).Live peer :=
    ⟨hs.isOpen, hb'.trans (hcap.trans hs.capacity)⟩
  have hflat : (seen ++ [b.unparsed]).flatten = seen.flatten ++ b.unparsed := by simp
  rw [h.handOver_eq hp hb]
  rcases splits_append h hl hne with hf | ⟨k, m, rest, hf, rfl, hrest⟩
  · rw [hf]
    refine .more { s with buffer := b.emptied } _ (hlive b.emptied rfl) rfl ?_ ?_
    · rw [hflat]
      exact .inr hf
    · rw [hflat]
      exact hl
  · rw [hf]
    exact .message _ m rest (hlive _ rfl) rfl hrest

/-- Receiving begins with what the buffer holds. -/
theorem receives_receive (h : p.Lawful f) (hs : s.Live peer)
    (hl : Splits f (s.buffer.unparsed ++ u) ms .peerClosed) :
    Session.Receives f peer ms u (s.receive p).1 := by
  have he : (s.receive p).1 = s.ofReceiving (s.buffer.receive p) := by
    simp [Session.receive, hs.isOpen]
  rw [he]
  by_cases hb : s.buffer.unparsed = []
  · have hw : s.buffer.receive p = .reading s.buffer [] := by
      simp [Buffer.receive, Buffer.handOver, hb]
    rw [hw]
    rw [hb] at hl
    exact .more s [] hs hb (.inl rfl) hl
  · exact receives_handOver h hs rfl (.inl rfl) hb hl

/-- A piece of the stream comes. -/
theorem receives_delivered (h : p.Lawful f) (hs : s.Live peer) (hp : Pending f seen.flatten)
    (hb : b ≠ []) (hl : Splits f (seen.flatten ++ (b ++ u)) ms .peerClosed) :
    Session.Receives f peer ms u (s.resume p (.receiving seen) (.delivered b)).1 := by
  obtain ⟨x, xs, rfl⟩ := List.exists_cons_of_ne_nil hb
  rw [← List.append_assoc] at hl
  exact receives_handOver h hs rfl hp hb hl

/-- A stream that ends where no message is has brought them all. -/
theorem splits_end (h : p.Lawful f) (hp : Pending f a) (hl : Splits f a ms .peerClosed) :
    ms = [] := by
  cases hl with
  | ended => rfl
  | message hf hrest =>
    have hlt := h.pending_lt hp (t := []) (by rwa [List.append_nil])
    have hle := (h.bounds hf).2
    omega

end Receiving

end SpaceGateway
