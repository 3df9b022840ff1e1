import SpaceGateway.Buffer
/-!
Parsers to which only the bytes matter, not the sections in which they are given them, and whose
answers are final.
-/
namespace SpaceGateway

/-- The parser answers by `f` to all the bytes it was given. A message is found as soon as its last
byte is there and not before, and no more bytes change an answer. -/
structure Parser.Lawful (p : Parser) (f : Bytes → ParseOutcome) : Prop where
  flatten : ∀ sections, p sections = f sections.flatten
  bounds : ∀ {b c m}, f b = .complete c m → 0 < c ∧ c ≤ b.length
  before : ∀ {b c m n}, f b = .complete c m → n < c → f (b.take n) = .inProgress
  within : ∀ {b c m n}, f b = .complete c m → c ≤ n → f (b.take n) = .complete c m
  beyond : ∀ {b c m} t, f b = .complete c m → f (b ++ t) = .complete c m
  broken : ∀ {b e} t, f b = .fault e → f (b ++ t) = .fault e

/-- A parser that has seen just these bytes has no answer yet. -/
def Pending (f : Bytes → ParseOutcome) (b : Bytes) : Prop := b = [] ∨ f b = .inProgress

namespace Parser.Lawful

variable {p : Parser} {f : Bytes → ParseOutcome} {a t : Bytes} {c : Nat} {m : Message}
  {e : CodecFault}

theorem prefix_complete (h : p.Lawful f) (hf : f (a ++ t) = .complete c m) (hc : c ≤ a.length) :
    f a = .complete c m := by
  have hw := h.within hf hc
  rwa [List.take_left] at hw

theorem prefix_short (h : p.Lawful f) (hf : f (a ++ t) = .complete c m) (hc : a.length < c) :
    f a = .inProgress := by
  have hw := h.before hf hc
  rwa [List.take_left] at hw

theorem prefix_inProgress (h : p.Lawful f) (hf : f (a ++ t) = .inProgress) :
    f a = .inProgress := by
  cases ha : f a with
  | inProgress => rfl
  | complete c m =>
    rw [h.beyond t ha] at hf
    cases hf
  | fault e =>
    rw [h.broken t ha] at hf
    cases hf

theorem final (h : p.Lawful f) (ha : f a ≠ .inProgress) : f (a ++ t) = f a := by
  cases hf : f a with
  | inProgress => exact (ha hf).elim
  | complete c m => exact h.beyond t hf
  | fault e => exact h.broken t hf

/-- The bytes a parser has seen without an answer do not reach the end of the message. -/
theorem pending_lt (h : p.Lawful f) (ha : Pending f a) (hf : f (a ++ t) = .complete c m) :
    a.length < c := by
  obtain rfl | ha := ha
  · exact (h.bounds hf).1
  · apply Nat.lt_of_not_le
    intro hc
    rw [h.prefix_complete hf hc] at ha
    cases ha

/-- What a parser without an answer makes of the bytes that the buffer holds. -/
theorem handOver_eq (h : p.Lawful f) {b : Buffer} {seen : List Bytes}
    (hs : Pending f seen.flatten) (hb : b.unparsed ≠ []) :
    b.handOver p seen =
      match f (seen.flatten ++ b.unparsed) with
      | .complete c m =>
        .done { b with unparsed := (seen.flatten ++ b.unparsed).drop c } (seen ++ [b.unparsed])
          (.ok m)
      | .inProgress => .reading b.emptied (seen ++ [b.unparsed])
      | .fault e =>
        .done b.emptied (seen ++ [b.unparsed]) (.error (.parseFailed (.codec e))) := by
  have hflat : (seen ++ [b.unparsed]).flatten = seen.flatten ++ b.unparsed := by simp
  have hne : b.unparsed.isEmpty = false := by simpa using hb
  simp only [Buffer.handOver, hne, h.flatten, hflat]
  cases hf : f (seen.flatten ++ b.unparsed) with
  | inProgress => rfl
  | fault e => rfl
  | complete c m =>
    have hlt := h.pending_lt hs hf
    have hle := (h.bounds hf).2
    rw [List.length_append] at hle
    have hspent : b.unparsed.length - (seen.flatten.length + b.unparsed.length - c) =
        c - seen.flatten.length := by omega
    have hleft : (seen.flatten ++ b.unparsed).drop c =
        b.unparsed.drop (c - seen.flatten.length) := by
      rw [List.drop_append, List.drop_eq_nil_of_le (Nat.le_of_lt hlt), List.nil_append]
    have hfits : c ≤ seen.flatten.length + b.unparsed.length ∧
        seen.flatten.length + b.unparsed.length - c ≤ b.unparsed.length := by omega
    simp only [Bool.false_eq_true, if_false, List.length_append, if_pos hfits, hspent, hleft]

end Parser.Lawful

end SpaceGateway
