import SpaceGateway.Proofs.Conservation
import SpaceGateway.Proofs.Tags
/-!
The parser of frames on arbitrary bytes. A lawful parser comes to one answer to a byte string, however
it is cut, and no message of it ends outside of the section that it was handed. In a frame, no end tag
begins before the start tag is complete, so the body can always be read from between them; and as no
message is read from nothing, a frame is longer than its tags.
-/
namespace SpaceGateway

/-- The bytes from `start` to `stop`, if these are places of the string in their order. -/
def Bytes.slice? (b : Bytes) (start stop : Nat) : Option Bytes :=
  if start ≤ stop ∧ stop ≤ b.length then some ((b.take stop).drop start) else none

theorem Bytes.slice?_eq {b : Bytes} {start stop : Nat} (h : start ≤ stop) (hb : stop ≤ b.length) :
    b.slice? start stop = some ((b.take stop).drop start) := if_pos ⟨h, hb⟩

theorem Bytes.slice?_zero {b : Bytes} {stop : Nat} (hb : stop ≤ b.length) :
    b.slice? 0 stop = some (b.take stop) := slice?_eq (Nat.zero_le _) hb

section Lawful
variable {p : Parser} {f : Bytes → ParseOutcome} {before sections : List Bytes} {last : Bytes}
  {consumed : Nat} {m : Message} {r : Receiving}

/-- Each outcome is the answer to the sections up to the one that it is told for. -/
theorem outcomes_heard {seen : List Bytes} {i : Nat} {o : ParseOutcome}
    (h : (p.outcomes seen sections)[i]? = some o) : o = p (seen ++ sections.take (i + 1)) := by
  induction sections generalizing seen i with
  | nil => cases h
  | cons x rest ih =>
    rw [Parser.outcomes] at h
    split at h
    · cases i with
      | zero => simpa using h.symm
      | succ i => simpa using ih h
    · cases i with
      | zero => simpa using h.symm
      | succ i => cases h

/-- A lawful parser is silent up to one section, and has for this one the answer to all bytes. -/
theorem Parser.Lawful.outcomes_eq (h : p.Lawful f) (seen : List Bytes) (hs : sections ≠ []) :
    ∃ n, p.outcomes seen sections =
      List.replicate n .inProgress ++ [f (seen ++ sections).flatten] := by
  induction sections generalizing seen with
  | nil => exact (hs rfl).elim
  | cons x rest ih =>
    have hsplit : seen ++ x :: rest = seen ++ [x] ++ rest := by simp
    rw [Parser.outcomes, hsplit]
    split
    · rename_i hwaits
      rw [ParseOutcome.isInProgress_iff] at hwaits
      by_cases hrest : rest = []
      · refine ⟨0, ?_⟩
        rw [hrest, Parser.outcomes, List.append_nil, ← h.flatten, List.replicate_zero,
          List.nil_append]
      · obtain ⟨n, hn⟩ := ih (seen ++ [x]) hrest
        exact ⟨n + 1, by rw [hn, hwaits, List.replicate_succ, List.cons_append]⟩
    · rename_i hanswers
      rw [ParseOutcome.isInProgress_iff, h.flatten] at hanswers
      have hall : f (seen ++ [x] ++ rest).flatten = f (seen ++ [x]).flatten := by
        rw [List.flatten_append, h.final hanswers]
      exact ⟨0, by rw [h.flatten, hall, List.replicate_zero, List.nil_append]⟩

theorem Parser.Lawful.pending (h : p.Lawful f) (hu : p.Undecided before) :
    Pending f before.flatten := by
  rcases List.eq_nil_or_concat before with rfl | ⟨front, x, rfl⟩
  · exact .inl rfl
  · rw [List.concat_eq_append] at hu ⊢
    right
    rw [← h.flatten]
    exact hu front x [] rfl

/-- A message of a lawful parser ends in the section for which it is found. -/
theorem Parser.Lawful.endsIn (h : p.Lawful f) (hu : p.Undecided before)
    (ha : p (before ++ [last]) = .complete consumed m) : EndsIn before last consumed := by
  have hflat : (before ++ [last]).flatten = before.flatten ++ last := by simp
  rw [h.flatten, hflat] at ha
  have hlt := h.pending_lt (h.pending hu) ha
  have hle := (h.bounds ha).2
  rw [EndsIn, hflat]
  rw [List.length_append] at hle ⊢
  omega

theorem Receiving.Faithful.ne_overreach (hr : r.Faithful p) (h : p.Lawful f) (handled : Nat) :
    r.result? ≠ some (.error (.parseFailed (.overreach consumed handled))) := by
  intro he
  cases hr with
  | reading | found | broken => cases he
  | overreached undecided answer ends => exact ends (h.endsIn undecided answer)
  | unread undecided empty failure =>
    cases he
    exact failure _ rfl

end Lawful

theorem Message.decode_nil : ∃ f, decode [] = .error f := ⟨_, rfl⟩

namespace Framed
variable {describe : Json.Fault → String} {b : Bytes} {c i : Nat} {m : Message}

/-- What is left of a start tag, from any place of it, does not begin an end tag. -/
theorem startTag_apart : ∀ d, d < 14 → ¬ startTag.drop d <+: endTag := by decide

/-- Where the start tag of a frame ends. -/
def bodyStart (b : Bytes) : Nat := b.length - (head b).length + startTag.length

/-- No end tag begins before the start tag is complete. -/
theorem bodyStart_le (ha : agrees startTag (head b) = true) (hp : endTag <+: b.drop i) :
    bodyStart b ≤ i := by
  have hblanks := blanks_before_endTag hp
  obtain ⟨u, hu⟩ := startTag_of_agrees hp ha
  rw [bodyStart, length_startTag]
  apply Nat.le_of_not_lt
  intro hi
  -- It would begin with what is left of the start tag from the place `d` of it.
  obtain ⟨d, rfl⟩ := Nat.exists_eq_add_of_le hblanks
  have hd : d < 14 := by omega
  have hhead : b.drop (b.length - (head b).length) = head b :=
    List.suffix_iff_eq_drop.1 (List.dropWhile_suffix _) |>.symm
  rw [← List.drop_drop, hhead, ← hu, List.drop_append_of_le_length (by rw [length_startTag]; omega)]
    at hp
  refine startTag_apart d hd (List.prefix_of_prefix_length_le (List.prefix_append _ _) hp ?_)
  rw [List.length_drop, length_startTag, length_endTag]
  omega

theorem body_in_range (ha : agrees startTag (head b) = true)
    (hf : Bytes.find? endTag b = some i) : bodyStart b ≤ i ∧ i ≤ b.length := by
  have hp := ((Bytes.find?_eq_some_iff endTag_ne_nil).1 hf).1
  have hl := Bytes.length_of_prefix_drop endTag_ne_nil hp
  exact ⟨bodyStart_le ha hp, by omega⟩

/-- The body of a message is not empty. -/
theorem tags_lt (h : parse describe b = .complete c m) :
    startTag.length + endTag.length < c := by
  obtain ⟨ha, i, hf, rfl⟩ := of_parse_complete h
  have hle := (body_in_range ha hf).1
  have hne : bodyStart b ≠ i := by
    intro he
    have hnone : between b i = [] := by
      rw [between, List.drop_eq_nil_iff, List.length_take]
      exact Nat.le_trans (Nat.min_le_left _ _) (Nat.le_of_eq he.symm)
    obtain ⟨fault, hdecode⟩ := Message.decode_nil
    rw [parse_finished ha hf, hnone, hdecode] at h
    cases h
  rw [bodyStart] at hle hne
  omega

/-- Looks for a frame by the places of its parts. There is no answer if bytes have to be read between
places that are out of order or out of the string. -/
def parse? (describe : Json.Fault → String) (b : Bytes) : Option ParseOutcome := do
  let start := b.findIdx fun x => !Bytes.isBlank x
  let front ← b.slice? start b.length
  let common := min front.length startTag.length
  if (← Bytes.slice? front 0 common) = (← Bytes.slice? startTag 0 common) then
    match Bytes.find? endTag b with
    | none => return .inProgress
    | some stop =>
      match Message.decode (← b.slice? (start + startTag.length) stop) with
      | .ok m => return .complete (stop + endTag.length) m
      | .error f => return .fault (.malformed (describe f))
  else return .fault (.malformed "missing start tag")

theorem head_eq_drop (b : Bytes) : head b = b.drop (b.findIdx fun x => !Bytes.isBlank x) :=
  List.dropWhile_eq_drop_findIdx_not

theorem findIdx_eq (b : Bytes) :
    (b.findIdx fun x => !Bytes.isBlank x) = b.length - (head b).length := by
  have hle := @List.findIdx_le_length _ (fun x => !Bytes.isBlank x) b
  rw [head_eq_drop, List.length_drop]
  omega

/-- Two strings agree if they are the same as far as both of them go. -/
theorem agrees_iff_take {a b : Bytes} : agrees a b = true ↔
    b.take (min b.length a.length) = a.take (min b.length a.length) := by
  rw [agrees_iff]
  constructor
  · rintro (⟨u, rfl⟩ | ⟨u, rfl⟩)
    · simp
    · simp
  · intro h
    rcases Nat.le_total a.length b.length with hle | hle
    · left
      rw [Nat.min_eq_right hle, List.take_length] at h
      exact h ▸ List.take_prefix _ _
    · right
      rw [Nat.min_eq_left hle, List.take_length] at h
      exact h ▸ List.take_prefix _ _

/-- All places between which bytes are read are in range, and the parser makes of them what it should. -/
theorem parse?_eq (describe : Json.Fault → String) (b : Bytes) :
    parse? describe b = some (parse describe b) := by
  have hhead : b.slice? (b.findIdx fun x => !Bytes.isBlank x) b.length = some (head b) := by
    rw [Bytes.slice?_eq List.findIdx_le_length (Nat.le_refl _), List.take_length, head_eq_drop]
  simp only [parse?, bind, Option.bind, hhead, Bytes.slice?_zero (Nat.min_le_left _ _),
    Bytes.slice?_zero (Nat.min_le_right _ _), pure]
  by_cases ha : agrees startTag (head b) = true
  · rw [if_pos (agrees_iff_take.1 ha)]
    cases hf : Bytes.find? endTag b with
    | none => rw [parse_unfinished ha hf]
    | some stop =>
      obtain ⟨hle, hstop⟩ := body_in_range ha hf
      have hbody : b.slice? ((b.findIdx fun x => !Bytes.isBlank x) + startTag.length) stop =
          some (between b stop) := by
        rw [findIdx_eq]
        exact Bytes.slice?_eq hle hstop
      rw [parse_finished ha hf]
      simp only [hbody]
      cases Message.decode (between b stop) <;> rfl
  · rw [if_neg (mt agrees_iff_take.2 ha), parse_missing ha]

/-- What the parser of frames makes of bytes, whatever they are. -/
structure KeepsContract (describe : Json.Fault → String) : Prop where
  /-- What it says to a section depends on the bytes up to its end, not on how they were cut. -/
  heard : ∀ sections i o, ((parser describe).outcomes [] sections)[i]? = some o →
    o = parse describe (sections.take (i + 1)).flatten
  /-- It asks for more up to some section, and says to this one what it has to say to all bytes. -/
  settled : ∀ sections, sections ≠ [] → ∃ n, (parser describe).outcomes [] sections =
    List.replicate n .inProgress ++ [parse describe sections.flatten]
  /-- A message has something between its tags. It is found from its last byte on, and no sooner. -/
  found : ∀ b c m, parse describe b = .complete c m →
    startTag.length + endTag.length < c ∧ c ≤ b.length ∧
      (∀ a, a <+: b → a.length < c → parse describe a = .inProgress) ∧
      ∀ t, parse describe (b.take c ++ t) = .complete c m
  /-- Bytes that are broken stay so. -/
  broken : ∀ b e, parse describe b = .fault e → ∀ t, parse describe (b ++ t) = .fault e
  /-- It reads nothing out of range. -/
  reads : ∀ b, parse? describe b = some (parse describe b)
  /-- Whatever a buffer holds, receiving does not fail for a message that ends in the wrong place. -/
  ends : ∀ (b : Buffer) deliveries consumed handled,
    ((b.receive (parser describe)).run (parser describe) deliveries).1.result? ≠
      some (.error (.parseFailed (.overreach consumed handled)))

/-- The parser of frames does what is asked of a parser, on arbitrary bytes. -/
theorem parser_keeps_contract (describe : Json.Fault → String) : KeepsContract describe := by
  have hlawful := parser_lawful describe
  refine ⟨?_, ?_, ?_, ?_, parse?_eq describe, ?_⟩
  · intro sections i o ho
    exact outcomes_heard ho
  · intro sections hs
    exact hlawful.outcomes_eq [] hs
  · intro b c m h
    refine ⟨tags_lt h, (parse_bounds h).2, ?_, ?_⟩
    · rintro a ⟨t, rfl⟩ ha
      exact hlawful.prefix_short h ha
    · intro t
      exact hlawful.beyond t (hlawful.within h (Nat.le_refl c))
  · intro b e h t
    exact hlawful.broken t h
  · intro b deliveries consumed handled
    exact faithful_receive.ne_overreach hlawful handled

/-- Nothing between the tags is no message. -/
example : parse Json.Fault.message (startTag ++ endTag) =
    .fault (.malformed "EOF while parsing a value") := rfl

end Framed
end SpaceGateway
