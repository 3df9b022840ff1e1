import SpaceGateway.Proofs.Conservation
/-!
Whether receiving gets on. Each message that is received takes up some of the bytes that were held or
read for it, unless the parser takes up nothing of the first section that it is handed.
-/
namespace SpaceGateway

/-- How many bytes some reads have brought. -/
def delivered (l : List Delivery) : Nat := (l.filterMap Delivery.section?).flatten.length

/-- Whether a parser that finds a message in its first section takes up some of it. -/
def Parser.Advances (p : Parser) : Prop := ∀ first m, first ≠ [] → p [first] ≠ .complete 0 m

/-- Whether every receive that brings a message reads something, or leaves fewer bytes than it has found. -/
def Parser.GetsOn (p : Parser) : Prop :=
  ∀ (b b' : Buffer) l seen m, (b.receive p).run p l = (.done b' seen (.ok m), []) →
    0 < delivered l ∨ b'.unparsed.length < b.unparsed.length

section Reads
variable {l l' : List Delivery} {d : Delivery}

@[simp] theorem delivered_nil : delivered [] = 0 := rfl

@[simp] theorem delivered_append : delivered (l ++ l') = delivered l + delivered l' := by
  simp [delivered]

theorem delivered_end (h : d.section? = none) : delivered [d] = 0 := by
  simp [delivered, h]

theorem section?_ne_nil {x : Bytes} (h : d.section? = some x) : x ≠ [] := by
  cases d with
  | failed reason => cases h
  | bytes y =>
    cases y with
    | nil => cases h
    | cons z zs =>
      cases h
      exact List.cons_ne_nil z zs

end Reads

section Receives
variable {parser : Parser} {b b' : Buffer} {seen : List Bytes} {l : List Delivery} {m : Message}

theorem flatten_leftover (b : Buffer) : b.leftover.flatten = b.unparsed := by
  unfold Buffer.leftover
  split
  · next hempty => simp [hempty]
  · simp

theorem ne_nil_of_mem_leftover {x : Bytes} (h : x ∈ b.leftover) : x ≠ [] := by
  unfold Buffer.leftover at h
  split at h
  · cases h
  · next hsome => rwa [List.mem_singleton.1 h]

/-- A parser has seen what was left over, and then what the reads have brought. -/
theorem seen_of_receive {r : Except Error Message}
    (h : (b.receive parser).run parser l = (.done b' seen r, [])) :
    seen = b.leftover ++ l.filterMap Delivery.section? := by
  obtain ⟨made, hmade, hsections⟩ := @sections_run parser l (b.receive parser)
  rw [h] at hmade hsections
  rw [List.append_nil] at hmade
  obtain rfl : l = made := hmade
  rw [Buffer.receive, sections_handOver, List.nil_append] at hsections
  exact hsections

/-- All bytes that a parser was handed are in the message, or are kept. If none is in the message then
it was handed one section. -/
theorem kept_of_message (h : (b.receive parser).run parser l = (.done b' seen (.ok m), [])) :
    ∃ consumed, b'.unparsed.length + consumed = b.unparsed.length + delivered l ∧
      (consumed = 0 → ∃ first ≠ [], parser [first] = .complete 0 m) := by
  have hseen := seen_of_receive h
  have hfaithful := @faithful_receive parser b l
  rw [h] at hfaithful
  have hlength : seen.flatten.length = b.unparsed.length + delivered l := by
    rw [hseen, List.flatten_append, List.length_append, flatten_leftover]
    rfl
  have hsome : ∀ x ∈ seen, x ≠ [] := by
    intro x hx
    rw [hseen, List.mem_append, List.mem_filterMap] at hx
    rcases hx with hx | ⟨d, -, hd⟩
    · exact ne_nil_of_mem_leftover hx
    · exact section?_ne_nil hd
  cases hfaithful with
  | @found _ before last consumed _ undecided answer ends kept =>
    obtain ⟨hfrom, hto⟩ := ends
    refine ⟨consumed, ?_, ?_⟩
    · rw [kept, List.length_drop, ← hlength]
      omega
    · rintro rfl
      -- A message ends in the last section, so there is nothing before that.
      have hbefore : before.flatten = [] := by
        rw [← List.length_eq_zero_iff]
        simpa using hfrom
      cases before with
      | nil => exact ⟨last, hsome last (by simp), answer⟩
      | cons x before =>
        rw [List.flatten_cons, List.append_eq_nil_iff] at hbefore
        exact (hsome x (by simp) hbefore.1).elim

/-- With a parser that takes up some of its first section there are fewer bytes left after a message than
were held and read for it. -/
theorem unparsed_lt (hp : parser.Advances)
    (h : (b.receive parser).run parser l = (.done b' seen (.ok m), [])) :
    b'.unparsed.length < b.unparsed.length + delivered l := by
  obtain ⟨consumed, hkept, hnone⟩ := kept_of_message h
  have hconsumed : consumed ≠ 0 := by
    intro hzero
    obtain ⟨first, hsome, hfirst⟩ := hnone hzero
    exact hp first m hsome hfirst
  omega

/-- A message that takes up nothing of the buffer is received without a read, and leaves it as it was. -/
theorem receive_idle (hsome : b.unparsed ≠ []) (h : parser [b.unparsed] = .complete 0 m) :
    b.receive parser = .done b [b.unparsed] (.ok m) := by
  unfold Buffer.receive Buffer.handOver
  have hempty : b.unparsed.isEmpty = false := by simpa using hsome
  simp [hempty, h]

/-- Receiving gets on with just the parsers that take up some of their first section. -/
theorem getsOn_iff : parser.GetsOn ↔ parser.Advances := by
  constructor
  · intro h first m hsome hfirst
    let b : Buffer := { capacity := first.length, valid := first.length, unparsed := first }
    have hrun : (b.receive parser).run parser [] = (.done b [first] (.ok m), []) := by
      rw [receive_idle (b := b) hsome hfirst]
      rfl
    rcases h b b [] _ m hrun with hread | hless
    · exact Nat.lt_irrefl 0 hread
    · exact Nat.lt_irrefl _ hless
  · intro hp b b' l seen m h
    have hless := unparsed_lt hp h
    by_cases hread : 0 < delivered l
    · exact .inl hread
    · exact .inr (by omega)

end Receives
end SpaceGateway
