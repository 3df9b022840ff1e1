import SpaceGateway.Proofs.Tags
import SpaceGateway.Rehearsal.Chunks
/-!
Messages come out of a stream whole and in their order, however its bytes arrive and however many
of them a read may bring.
-/
namespace SpaceGateway

/-- The messages at the front of a byte string, and what goes wrong after the last of them if the
stream ends there. -/
inductive Splits (f : Bytes → ParseOutcome) : Bytes → List Message → Error → Prop
  | message {b c m ms e} : f b = .complete c m → Splits f (b.drop c) ms e → Splits f b (m :: ms) e
  | broken {b e} : b ≠ [] → f b = .fault e → Splits f b [] (.parseFailed (.codec e))
  | ended {b} : b = [] ∨ f b = .inProgress → Splits f b [] .peerClosed

/-- Any byte string splits into messages in one way at least. -/
theorem Parser.Lawful.exists_splits {p : Parser} {f : Bytes → ParseOutcome} (h : p.Lawful f)
    (b : Bytes) : ∃ ms e, Splits f b ms e := by
  by_cases hb : b = []
  · exact ⟨[], _, .ended (Or.inl hb)⟩
  · cases hf : f b with
    | inProgress => exact ⟨[], _, .ended (Or.inr hf)⟩
    | fault e => exact ⟨[], _, .broken hb hf⟩
    | complete c m =>
      obtain ⟨hpos, hle⟩ := h.bounds hf
      have hlt : (b.drop c).length < b.length := by
        rw [List.length_drop]
        omega
      obtain ⟨ms, e, hs⟩ := exists_splits h (b.drop c)
      exact ⟨m :: ms, e, .message hf hs⟩
termination_by b.length

/-- What receiving brings on a stream that ends after these bytes. -/
def firstOf (f : Bytes → ParseOutcome) (rest : Bytes) : Except Error Message :=
  match f rest with
  | .complete _ m => .ok m
  | .inProgress => .error .peerClosed
  | .fault e => if rest = [] then .error .peerClosed else .error (.parseFailed (.codec e))

theorem firstOf_complete {f : Bytes → ParseOutcome} {b : Bytes} {c : Nat} {m : Message}
    (hf : f b = .complete c m) : firstOf f b = .ok m := by
  simp [firstOf, hf]

theorem firstOf_fault {f : Bytes → ParseOutcome} {b : Bytes} {e : CodecFault}
    (hf : f b = .fault e) (hb : b ≠ []) :
    firstOf f b = .error (.parseFailed (.codec e)) := by
  simp [firstOf, hf, hb]

theorem firstOf_pending {p : Parser} {f : Bytes → ParseOutcome} {b : Bytes} (h : p.Lawful f)
    (hb : Pending f b) : firstOf f b = .error .peerClosed := by
  obtain rfl | hb := hb
  · unfold firstOf
    cases hf : f [] with
    | inProgress => rfl
    | fault e => rfl
    | complete c m =>
      have := h.bounds hf
      simp at this
      omega
  · simp [firstOf, hb]

namespace Rehearsal.Chunks

variable {p : Parser} {f : Bytes → ParseOutcome} {b : Buffer} {c : Chunks} {seen : List Bytes}
  {rest : Bytes} {fuel : Nat}

/-- No chunk is empty, so that only the end of the stream brings no bytes. -/
def Full (c : Chunks) : Prop := ∀ x ∈ c.left, x ≠ []

theorem read_full {most : Nat} (hc : c.Full) (hm : 0 < most) (hl : c.left ≠ []) :
    (c.read most).1 ≠ [] ∧ (c.read most).1 ++ (c.read most).2.left.flatten = c.left.flatten ∧
      (c.read most).2.Full := by
  obtain ⟨left, reads⟩ := c
  cases left with
  | nil => exact (hl rfl).elim
  | cons x rest =>
    have hx : x ≠ [] := hc x List.mem_cons_self
    have hrest : ∀ y ∈ rest, y ≠ [] := fun y hy => hc y (List.mem_cons_of_mem x hy)
    have hpiece : x.take most ≠ [] := by
      rw [Ne, List.take_eq_nil_iff]
      rintro (h | h)
      · omega
      · exact hx h
    cases hd : x.drop most with
    | nil =>
      have hle : x.length ≤ most := List.drop_eq_nil_iff.1 hd
      refine ⟨by simpa [read, hd] using hpiece, ?_, by simpa [read, hd, Full] using hrest⟩
      simp [read, hd, List.take_of_length_le hle]
    | cons y ys =>
      refine ⟨by simpa [read, hd] using hpiece, ?_, by simpa [read, hd, Full] using hrest⟩
      have hx : x.take most ++ y :: ys = x := by rw [← hd, List.take_append_drop]
      simp only [read, hd, List.isEmpty_cons, Bool.false_eq_true, if_false, List.flatten_cons,
        ← List.append_assoc, hx]

theorem read_nil {most : Nat} (hl : c.left = []) : c.read most = ([], c) := by
  simp [read, hl]

/-- A call that is done has brought the first message of `rest`, or the failure that stands for it;
after a message, the buffer and the chunks hold what follows it. -/
def Brings (f : Bytes → ParseOutcome) (rest : Bytes) (capacity : Nat) (o : Receiving × Chunks) :
    Prop :=
  ∃ b seen, o.1 = .done b seen (firstOf f rest) ∧
    ∀ k m, f rest = .complete k m →
      b.unparsed ++ o.2.left.flatten = rest.drop k ∧ b.capacity = capacity ∧ o.2.Full

theorem serve_done {r : Except Error Message} :
    serve p fuel (.done b seen r) c = (.done b seen r, c) := by
  cases fuel <;> rfl

/-- It is enough to know what comes of waiting for the next read. -/
theorem brings_handOver (h : p.Lawful f) (hs : Pending f seen.flatten) (hc : c.Full)
    (hread : ∀ b' seen', Pending f seen'.flatten → b'.capacity = b.capacity →
      seen'.flatten = seen.flatten ++ b.unparsed →
      Brings f (seen'.flatten ++ c.left.flatten) b.capacity (serve p fuel (.reading b' seen') c)) :
    Brings f (seen.flatten ++ b.unparsed ++ c.left.flatten) b.capacity
      (serve p fuel (b.handOver p seen) c) := by
  by_cases hb : b.unparsed = []
  · have hw : b.handOver p seen = .reading b seen := by simp [Buffer.handOver, hb]
    have hr := hread b seen hs rfl (by simp [hb])
    rwa [hw, hb, List.append_nil]
  · rw [h.handOver_eq hs hb]
    cases hf : f (seen.flatten ++ b.unparsed) with
    | inProgress =>
      have hflat : (seen ++ [b.unparsed]).flatten = seen.flatten ++ b.unparsed := by simp
      have hr := hread b.emptied (seen ++ [b.unparsed]) (by rw [hflat]; exact Or.inr hf) rfl hflat
      rwa [hflat] at hr
    | fault e =>
      have hall := h.broken c.left.flatten hf
      refine ⟨b.emptied, seen ++ [b.unparsed], ?_, ?_⟩
      · have hne : seen.flatten ++ b.unparsed ++ c.left.flatten ≠ [] := by simp [hb]
        rw [serve_done, firstOf_fault hall hne]
      · intro k m hk
        rw [hall] at hk
        cases hk
    | complete k m =>
      have hall := h.beyond c.left.flatten hf
      have hle := (h.bounds hf).2
      refine ⟨{ b with unparsed := (seen.flatten ++ b.unparsed).drop k }, seen ++ [b.unparsed],
        by rw [serve_done, firstOf_complete hall], ?_⟩
      intro k' m' hk
      rw [hall] at hk
      obtain ⟨rfl, rfl⟩ := ParseOutcome.complete.inj hk
      rw [serve_done]
      exact ⟨(List.drop_append_of_le_length hle).symm, rfl, hc⟩

theorem brings_reading (h : p.Lawful f) (hs : Pending f seen.flatten) (hb : 0 < b.capacity)
    (hc : c.Full) (hfuel : c.size < fuel) :
    Brings f (seen.flatten ++ c.left.flatten) b.capacity (serve p fuel (.reading b seen) c) := by
  induction fuel generalizing b seen c with
  | zero => omega
  | succ fuel ih =>
    by_cases hl : c.left = []
    · have hdone : serve p (fuel + 1) (.reading b seen) c =
          (.done b seen (.error .peerClosed), c) := by
        simp [serve, read_nil hl, Buffer.deliver, serve_done]
      have hend : seen.flatten ++ c.left.flatten = seen.flatten := by simp [hl]
      rw [hdone, hend]
      refine ⟨b, seen, by rw [firstOf_pending h hs], ?_⟩
      intro k m hk
      have hlt := h.pending_lt hs (t := []) (by rwa [List.append_nil])
      have hle := (h.bounds hk).2
      omega
    · obtain ⟨hne, hflat, hfull⟩ := read_full hc hb hl
      obtain ⟨x, xs, hx⟩ := List.exists_cons_of_ne_nil hne
      have hsize : (c.read b.capacity).2.size < fuel := by
        have hlen := congrArg List.length hflat
        rw [List.length_append, hx, List.length_cons] at hlen
        simp only [size] at hfuel ⊢
        omega
      let filled : Buffer := { b with valid := (x :: xs).length, unparsed := x :: xs }
      have hstep : Brings f (seen.flatten ++ filled.unparsed ++ (c.read b.capacity).2.left.flatten)
          b.capacity (serve p fuel (filled.handOver p seen) (c.read b.capacity).2) := by
        apply brings_handOver h hs hfull
        intro b' seen' hs' hcap _
        have hr := ih hs' (hcap ▸ hb) hfull hsize
        rwa [hcap] at hr
      rw [List.append_assoc] at hstep
      simpa only [serve, hx, Buffer.deliver, ← hflat] using hstep

theorem brings_receive (h : p.Lawful f) (hb : 0 < b.capacity) (hc : c.Full) :
    Brings f (b.unparsed ++ c.left.flatten) b.capacity (c.receive p b) := by
  have hr : Brings f (([] : List Bytes).flatten ++ b.unparsed ++ c.left.flatten) b.capacity
      (serve p (c.size + 1) (b.handOver p []) c) := by
    apply brings_handOver h (Or.inl rfl) hc
    intro b' seen' hs hcap _
    have hr := brings_reading h hs (hcap ▸ hb) hc (Nat.lt_succ_self c.size)
    rwa [hcap] at hr
  exact hr

/-- What the first `n` receivings bring, up to the first failure. -/
def results (p : Parser) : Nat → Buffer → Chunks → List (Except Error Message)
  | 0, _, _ => []
  | n + 1, b, c =>
    match c.receive p b with
    | (.done b _ (.ok m), c) => .ok m :: results p n b c
    | (.done _ _ (.error e), _) => [.error e]
    | (.reading .., _) => []

/-- Only the bytes that are left decide what receiving brings. -/
theorem results_eq {ms : List Message} {e : Error} (h : p.Lawful f) (hs : Splits f rest ms e)
    (n : Nat) (hb : 0 < b.capacity) (hc : c.Full) (hrest : b.unparsed ++ c.left.flatten = rest) :
    results p n b c = (ms.map Except.ok ++ [Except.error e]).take n := by
  induction hs generalizing n b c with
  | message hf _ ih =>
    cases n with
    | zero => rfl
    | succ n =>
      obtain ⟨b', seen, hdone, hleft⟩ := brings_receive h hb hc
      obtain ⟨hflat, hcap, hfull⟩ := hleft _ _ (hrest ▸ hf)
      rw [hrest, firstOf_complete hf] at hdone
      rw [hrest] at hflat
      rw [results, ← Prod.eta (c.receive p b), hdone, List.map_cons, List.cons_append,
        List.take_succ_cons, ← ih n (hcap ▸ hb) hfull hflat]
  | broken hne hf =>
    cases n with
    | zero => rfl
    | succ n =>
      obtain ⟨b', seen, hdone, -⟩ := brings_receive h hb hc
      rw [hrest, firstOf_fault hf hne] at hdone
      rw [results, ← Prod.eta (c.receive p b), hdone, List.map_nil, List.nil_append,
        List.take_succ_cons, List.take_nil]
  | ended hf =>
    cases n with
    | zero => rfl
    | succ n =>
      obtain ⟨b', seen, hdone, -⟩ := brings_receive h hb hc
      rw [hrest, firstOf_pending h hf] at hdone
      rw [results, ← Prod.eta (c.receive p b), hdone, List.map_nil, List.nil_append,
        List.take_succ_cons, List.take_nil]

end Rehearsal.Chunks

namespace Receiving

variable {p : Parser} {f : Bytes → ParseOutcome} {b : Buffer} {reads : List Bytes} {k : Nat}
  {m : Message}

theorem run_done {seen : List Bytes} {r : Except Error Message} {left : List Delivery} :
    (Receiving.done b seen r).run p left = (.done b seen r, left) := by
  cases left <;> rfl

/-- A read is made only while bytes of the message are missing. -/
theorem run_reading (h : p.Lawful f) {seen : List Bytes} (hs : Pending f seen.flatten)
    (hreads : ∀ x ∈ reads, x ≠ []) (hf : f (seen.flatten ++ reads.flatten) = .complete k m) :
    ∃ n b' seen', (Receiving.reading b seen).run p (reads.map .bytes) =
        (.done b' seen' (.ok m), (reads.drop n).map .bytes) ∧
      b'.unparsed = (seen.flatten ++ (reads.take n).flatten).drop k ∧
      ∀ i, i < n → (seen.flatten ++ (reads.take i).flatten).length < k := by
  induction reads generalizing b seen with
  | nil =>
    have hlt := h.pending_lt hs hf
    have hle := (h.bounds hf).2
    rw [List.flatten_nil, List.append_nil] at hle
    omega
  | cons x reads ih =>
    have hx : x ≠ [] := hreads x List.mem_cons_self
    have hrest : ∀ y ∈ reads, y ≠ [] := fun y hy => hreads y (List.mem_cons_of_mem x hy)
    obtain ⟨y, ys, rfl⟩ := List.exists_cons_of_ne_nil hx
    have hlt := h.pending_lt hs hf
    rw [List.flatten_cons, ← List.append_assoc] at hf
    have hover :=
      h.handOver_eq (b := { b with valid := (y :: ys).length, unparsed := y :: ys }) hs hx
    simp only [List.map_cons, run, Buffer.deliver, hover]
    cases hp : f (seen.flatten ++ y :: ys) with
    | complete k' m' =>
      rw [h.beyond _ hp] at hf
      obtain ⟨rfl, rfl⟩ := ParseOutcome.complete.inj hf
      refine ⟨1, _, _, run_done, by simp, ?_⟩
      intro i hi
      have hi : i = 0 := by omega
      simpa [hi] using hlt
    | fault e =>
      rw [h.broken _ hp] at hf
      cases hf
    | inProgress =>
      have hflat : (seen ++ [y :: ys]).flatten = seen.flatten ++ y :: ys := by simp
      rw [← hflat] at hp hf
      obtain ⟨n, b', seen', hrun, hleft, hmin⟩ :=
        ih (b := Buffer.emptied { b with valid := (y :: ys).length, unparsed := y :: ys })
          (Or.inr hp) hrest hf
      rw [hflat] at hleft hmin
      refine ⟨n + 1, b', seen', hrun, by simpa using hleft, ?_⟩
      intro i hi
      cases i with
      | zero => simpa using hlt
      | succ i => simpa using hmin i (Nat.lt_of_succ_lt_succ hi)

/-- As above, for a call that finds bytes in the buffer. -/
theorem run_receive (h : p.Lawful f) (hreads : ∀ x ∈ reads, x ≠ [])
    (hf : f (b.unparsed ++ reads.flatten) = .complete k m) :
    ∃ n b' seen, (b.receive p).run p (reads.map .bytes) =
        (.done b' seen (.ok m), (reads.drop n).map .bytes) ∧
      b'.unparsed = (b.unparsed ++ (reads.take n).flatten).drop k ∧
      ∀ i, i < n → (b.unparsed ++ (reads.take i).flatten).length < k := by
  by_cases hb : b.unparsed = []
  · have hw : b.receive p = .reading b [] := by simp [Buffer.receive, Buffer.handOver, hb]
    rw [hb] at hf
    obtain ⟨n, b', seen, hrun, hleft, hmin⟩ :=
      run_reading (b := b) h (Or.inl rfl : Pending f ([] : List Bytes).flatten) hreads hf
    exact ⟨n, b', seen, hw ▸ hrun, hb ▸ hleft, hb ▸ hmin⟩
  · have hover := h.handOver_eq (Or.inl rfl : Pending f ([] : List Bytes).flatten) hb
    rw [List.flatten_nil, List.nil_append, List.nil_append] at hover
    rw [Buffer.receive, hover]
    cases hp : f b.unparsed with
    | complete k' m' =>
      rw [h.beyond _ hp] at hf
      obtain ⟨rfl, rfl⟩ := ParseOutcome.complete.inj hf
      exact ⟨0, _, _, run_done, by simp, fun i hi => absurd hi (Nat.not_lt_zero i)⟩
    | fault e =>
      rw [h.broken _ hp] at hf
      cases hf
    | inProgress =>
      have hflat : ([b.unparsed] : List Bytes).flatten = b.unparsed := by simp
      rw [← hflat] at hp
      obtain ⟨n, b', seen, hrun, hleft, hmin⟩ :=
        run_reading (b := b.emptied) h (Or.inr hp) hreads (by rwa [hflat])
      rw [hflat] at hleft hmin
      exact ⟨n, b', seen, hrun, hleft, hmin⟩

end Receiving

/-- However a stream is cut and whatever its buffer can take, receiving again and again brings the
messages of its bytes and then the same failure. And no read is made once the bytes of the message
that a call brings are there: neither when the buffer held them nor when the last read brought
them, whether or not the peer sends more. -/
theorem results_independent_of_arrival {p : Parser} {f : Bytes → ParseOutcome} (h : p.Lawful f)
    (stream : Bytes) :
    (∃ ms e, Splits f stream ms e ∧
      ∀ (chunks : List Bytes) (capacity : Nat), chunks.flatten = stream → (∀ x ∈ chunks, x ≠ []) →
        0 < capacity → ∀ n,
          Rehearsal.Chunks.results p n { capacity } { left := chunks } =
            (ms.map Except.ok ++ [Except.error e]).take n) ∧
    ∀ (b : Buffer) (reads : List Bytes) (k : Nat) (m : Message), (∀ x ∈ reads, x ≠ []) →
      f (b.unparsed ++ reads.flatten) = .complete k m →
        ∃ n b' seen, (b.receive p).run p (reads.map .bytes) =
            (.done b' seen (.ok m), (reads.drop n).map .bytes) ∧
          b'.unparsed = (b.unparsed ++ (reads.take n).flatten).drop k ∧
          ∀ i, i < n → (b.unparsed ++ (reads.take i).flatten).length < k := by
  constructor
  · obtain ⟨ms, e, hs⟩ := h.exists_splits stream
    refine ⟨ms, e, hs, ?_⟩
    intro chunks capacity hflat hfull hcap n
    exact Rehearsal.Chunks.results_eq h hs n hcap hfull hflat
  · intro b reads k m hreads hf
    exact Receiving.run_receive h hreads hf

/-- Two frames, cut inside the first start tag, for a buffer of seven bytes. -/
theorem results_of_frames_cut_in_a_tag :
    let joined := Rehearsal.confirmation .join "N" "S"
    let frame := Framed.encode joined
    let chunks := [(frame ++ frame).take 5, (frame ++ frame).drop 5]
    let parser := Framed.parser Json.Fault.message
    (∃ ms e, Splits (Framed.parse Json.Fault.message) (frame ++ frame) ms e ∧
      Rehearsal.Chunks.results parser 3 { capacity := 7 } { left := chunks } =
        (ms.map Except.ok ++ [Except.error e]).take 3) ∧
    ∃ n b' seen, (Buffer.receive parser { capacity := 7 }).run parser (chunks.map .bytes) =
        (.done b' seen (.ok joined), (chunks.drop n).map .bytes) ∧
      b'.unparsed = ([] ++ (chunks.take n).flatten).drop frame.length ∧
      ∀ i, i < n → ([] ++ (chunks.take i).flatten).length < frame.length := by
  intro joined frame chunks parser
  obtain ⟨⟨ms, e, hs, hr⟩, hp⟩ := results_independent_of_arrival
    (Framed.parser_lawful Json.Fault.message) (frame ++ frame)
  refine ⟨⟨ms, e, hs, hr chunks 7 ?_ ?_ (by decide) 3⟩, hp { capacity := 7 } _ _ _ ?_ ?_⟩
  · simp [chunks]
  · decide +kernel
  · decide +kernel
  · decide +kernel

end SpaceGateway
