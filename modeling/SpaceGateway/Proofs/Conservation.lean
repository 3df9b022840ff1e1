import SpaceGateway.Buffer
/-!
What becomes of the bytes that pass through a buffer, whatever its parsers answer. A call hands its
parser the bytes that the buffer held and then those of each read, each of them once and in their
order. If it brings a message, the buffer holds afterwards what the parser left over of them; if it
fails, the buffer holds none.
-/
namespace SpaceGateway

/-- Whether a read brings no more than it may. -/
def Delivery.Fits (most : Nat) : Delivery → Prop
  | bytes b => b.length ≤ most
  | failed _ => True

/-- The section that a read gives to the parser. -/
def Delivery.section? : Delivery → Option Bytes
  | bytes (x :: xs) => some (x :: xs)
  | bytes [] | failed _ => none

/-- Whether a message of `consumed` bytes ends in the last of the sections that were handed over. -/
def EndsIn (before : List Bytes) (last : Bytes) (consumed : Nat) : Prop :=
  (before ++ [last]).flatten.length - last.length ≤ consumed ∧
    consumed ≤ (before ++ [last]).flatten.length

/-- Whether the parser has asked for more after each of these sections. -/
def Parser.Undecided (p : Parser) (seen : List Bytes) : Prop :=
  ∀ before last rest, seen = before ++ last :: rest → p (before ++ [last]) = .inProgress

namespace Buffer

/-- Whether a buffer for so many bytes holds no more than are valid, and no more of these than it can
take. -/
structure Within (capacity : Nat) (b : Buffer) : Prop where
  size : b.capacity = capacity
  unparsed : b.unparsed.length ≤ b.valid
  valid : b.valid ≤ b.capacity

/-- The buffer after a read of these bytes. -/
def filled (b : Buffer) (x : Bytes) : Buffer := { b with valid := x.length, unparsed := x }

/-- What a call finds in the buffer, as a section for its parser. -/
def leftover (b : Buffer) : List Bytes := if b.unparsed = [] then [] else [b.unparsed]

/-- The buffers with which a call hands bytes over or goes on to read: the one that it finds, and the
one that each read fills. -/
inductive IsHead (parser : Parser) (b : Buffer) (reads : List Delivery) : Buffer → Prop
  | found : IsHead parser b reads b
  | filled {made x rest b' seen} (split : reads = made ++ .bytes x :: rest) (some : x ≠ [])
    (waits : (b.receive parser).run parser made = (.reading b' seen, [])) :
    IsHead parser b reads (b'.filled x)

/-- What a buffer can come to by calls, each with a parser of its own. A call that has too few reads
is given up while it waits for the next. -/
inductive Reachable (capacity : Nat) : Buffer → Prop
  | fresh : Reachable capacity { capacity }
  | received {b} (h : Reachable capacity b) (parser : Parser) {reads : List Delivery}
    (fits : ∀ x ∈ reads, x.Fits capacity) :
    Reachable capacity ((b.receive parser).run parser reads).1.buffer

end Buffer

/-- How receiving stands with its parser and with what the buffer still holds. -/
inductive Receiving.Faithful (p : Parser) : Receiving → Prop
  | reading {b seen} (undecided : p.Undecided seen) (empty : b.unparsed = []) :
    Faithful p (.reading b seen)
  | found {b before last consumed m} (undecided : p.Undecided before)
    (answer : p (before ++ [last]) = .complete consumed m) (ends : EndsIn before last consumed)
    (kept : b.unparsed = (before ++ [last]).flatten.drop consumed) :
    Faithful p (.done b (before ++ [last]) (.ok m))
  | overreached {b before last consumed m} (undecided : p.Undecided before)
    (answer : p (before ++ [last]) = .complete consumed m) (ends : ¬ EndsIn before last consumed) :
    Faithful p (.done (Buffer.emptied b) (before ++ [last])
      (.error (.parseFailed (.overreach consumed (before ++ [last]).flatten.length))))
  | broken {b before last f} (undecided : p.Undecided before)
    (answer : p (before ++ [last]) = .fault f) :
    Faithful p (.done (Buffer.emptied b) (before ++ [last]) (.error (.parseFailed (.codec f))))
  | unread {b seen e} (undecided : p.Undecided seen) (empty : b.unparsed = [])
    (failure : ∀ f, e ≠ .parseFailed f) : Faithful p (.done b seen (.error e))

section Lists
variable {p : Parser} {seen before rest : List Bytes} {x last : Bytes} {consumed : Nat}

theorem undecided_nil : p.Undecided [] := by
  intro before last rest h
  cases before <;> cases h

/-- A section of those that were seen, or the one that comes next. -/
theorem snoc_eq_append_cons (h : seen ++ [x] = before ++ last :: rest) :
    (seen = before ∧ x = last ∧ rest = []) ∨ ∃ rest', seen = before ++ last :: rest' := by
  rcases List.eq_nil_or_concat rest with rfl | ⟨rest', y, rfl⟩
  · obtain ⟨hs, hx⟩ := List.append_inj' h rfl
    exact .inl ⟨hs, List.cons.inj hx |>.1, rfl⟩
  · rw [List.concat_eq_append, ← List.cons_append, ← List.append_assoc] at h
    exact .inr ⟨rest', (List.append_inj' h rfl).1⟩

theorem Parser.Undecided.snoc (h : p.Undecided seen) (hx : p (seen ++ [x]) = .inProgress) :
    p.Undecided (seen ++ [x]) := by
  intro before last rest he
  rcases snoc_eq_append_cons he with ⟨rfl, rfl, -⟩ | ⟨rest', hs⟩
  · exact hx
  · exact h before last rest' hs

/-- A section to which the parser has an answer is the last one. -/
theorem Parser.Undecided.decided (h : p.Undecided seen)
    (he : seen ++ [x] = before ++ last :: rest) (ha : p (before ++ [last]) ≠ .inProgress) :
    seen = before ∧ x = last ∧ rest = [] := by
  rcases snoc_eq_append_cons he with hs | ⟨rest', hs⟩
  · exact hs
  · exact (ha (h before last rest' hs)).elim

theorem endsIn_iff : EndsIn before last consumed ↔
    consumed ≤ (before ++ [last]).flatten.length ∧
      (before ++ [last]).flatten.length - consumed ≤ last.length := by
  unfold EndsIn
  omega

/-- What is left over of all sections is left over of the last. -/
theorem drop_flatten_snoc (h : EndsIn before last consumed) :
    (before ++ [last]).flatten.drop consumed =
      last.drop (last.length - ((before ++ [last]).flatten.length - consumed)) := by
  obtain ⟨hfrom, hto⟩ := h
  have hflat : (before ++ [last]).flatten = before.flatten ++ last := by simp
  rw [hflat, List.length_append] at hfrom hto ⊢
  rw [List.drop_append, List.drop_eq_nil_of_le (by omega), List.nil_append]
  congr 1
  omega

end Lists

section Calls
variable {parser : Parser} {b : Buffer} {seen : List Bytes} {reads : List Delivery} {x : Bytes}
variable {d : Delivery} {capacity : Nat} {r : Receiving}

/-- All that can come of handing over what a buffer holds. -/
theorem handOver_cases (parser : Parser) (b : Buffer) (seen : List Bytes) :
    (b.unparsed = [] ∧ b.handOver parser seen = .reading b seen) ∨
      (parser (seen ++ [b.unparsed]) = .inProgress ∧
        b.handOver parser seen = .reading b.emptied (seen ++ [b.unparsed])) ∨
      (∃ f, parser (seen ++ [b.unparsed]) = .fault f ∧ b.handOver parser seen =
        .done b.emptied (seen ++ [b.unparsed]) (.error (.parseFailed (.codec f)))) ∨
      ∃ consumed m, parser (seen ++ [b.unparsed]) = .complete consumed m ∧
        ((EndsIn seen b.unparsed consumed ∧ ∃ n, b.handOver parser seen =
            .done { b with unparsed := b.unparsed.drop n } (seen ++ [b.unparsed]) (.ok m) ∧
              b.unparsed.drop n = (seen ++ [b.unparsed]).flatten.drop consumed) ∨
          ¬ EndsIn seen b.unparsed consumed ∧ b.handOver parser seen =
            .done b.emptied (seen ++ [b.unparsed]) (.error (.parseFailed
              (.overreach consumed (seen ++ [b.unparsed]).flatten.length)))) := by
  by_cases hempty : b.unparsed = []
  · exact .inl ⟨hempty, by simp [Buffer.handOver, hempty]⟩
  have hsome : b.unparsed.isEmpty = false := by simpa using hempty
  cases ha : parser (seen ++ [b.unparsed]) with
  | inProgress => exact .inr (.inl ⟨rfl, by simp [Buffer.handOver, hsome, ha]⟩)
  | fault f => exact .inr (.inr (.inl ⟨f, rfl, by simp [Buffer.handOver, hsome, ha]⟩))
  | complete consumed m =>
    refine .inr (.inr (.inr ⟨consumed, m, rfl, ?_⟩))
    by_cases hends : EndsIn seen b.unparsed consumed
    · refine .inl ⟨hends, _, ?_, (drop_flatten_snoc hends).symm⟩
      simp only [Buffer.handOver, hsome, ha, if_pos (endsIn_iff.1 hends), Bool.false_eq_true,
        if_false]
    · refine .inr ⟨hends, ?_⟩
      simp only [Buffer.handOver, hsome, ha, if_neg (mt endsIn_iff.2 hends), Bool.false_eq_true,
        if_false]

theorem faithful_handOver (h : parser.Undecided seen) : (b.handOver parser seen).Faithful parser := by
  rcases handOver_cases parser b seen with ⟨hempty, he⟩ | ⟨ha, he⟩ | ⟨f, ha, he⟩ |
    ⟨consumed, m, ha, ⟨hends, n, he, hkept⟩ | ⟨hno, he⟩⟩
  · rw [he]
    exact .reading h hempty
  · rw [he]
    exact .reading (b := b.emptied) (h.snoc ha) rfl
  · rw [he]
    exact .broken h ha
  · rw [he]
    exact .found h ha hends hkept
  · rw [he]
    exact .overreached h ha hno

theorem faithful_deliver (h : parser.Undecided seen) (hb : b.unparsed = []) :
    (b.deliver parser seen d).Faithful parser := by
  cases d with
  | failed reason => exact .unread h hb nofun
  | bytes y =>
    cases y with
    | nil => exact .unread h hb nofun
    | cons => exact faithful_handOver h

theorem faithful_run (h : r.Faithful parser) : (r.run parser reads).1.Faithful parser := by
  induction reads generalizing r with
  | nil => cases r <;> exact h
  | cons d rest ih =>
    cases h with
    | reading undecided empty => exact ih (faithful_deliver undecided empty)
    | found undecided answer ends kept => exact .found undecided answer ends kept
    | overreached undecided answer ends => exact .overreached undecided answer ends
    | broken undecided answer => exact .broken undecided answer
    | unread undecided empty failure => exact .unread undecided empty failure

theorem faithful_receive : ((b.receive parser).run parser reads).1.Faithful parser :=
  faithful_run (faithful_handOver undecided_nil)

theorem sections_handOver : (b.handOver parser seen).sections = seen ++ b.leftover := by
  unfold Buffer.leftover
  split
  · rename_i hempty
    simp [Buffer.handOver, hempty, Receiving.sections]
  · rename_i hsome
    rcases handOver_cases parser b seen with ⟨hempty, -⟩ | ⟨-, he⟩ | ⟨f, -, he⟩ |
      ⟨consumed, m, -, ⟨-, n, he, -⟩ | ⟨-, he⟩⟩
    · exact (hsome hempty).elim
    all_goals rw [he]; rfl

theorem sections_deliver :
    (b.deliver parser seen d).sections = seen ++ d.section?.toList := by
  cases d with
  | failed reason => simp [Buffer.deliver, Receiving.sections, Delivery.section?]
  | bytes y =>
    cases y with
    | nil => simp [Buffer.deliver, Receiving.sections, Delivery.section?]
    | cons => exact sections_handOver

theorem sections_run : ∃ made, reads = made ++ (r.run parser reads).2 ∧
    (r.run parser reads).1.sections = r.sections ++ made.filterMap Delivery.section? := by
  induction reads generalizing r with
  | nil => exact ⟨[], by cases r <;> rfl, by cases r <;> simp [Receiving.run]⟩
  | cons d rest ih =>
    cases r with
    | done b seen result => exact ⟨[], rfl, by simp [Receiving.run]⟩
    | reading b seen =>
      obtain ⟨made, hmade, hsections⟩ := @ih (b.deliver parser seen d)
      refine ⟨d :: made, congrArg (d :: ·) hmade, ?_⟩
      have hd : (d :: made).filterMap Delivery.section? =
          d.section?.toList ++ made.filterMap Delivery.section? := by
        cases hs : d.section? <;> simp [hs]
      rw [hd, ← List.append_assoc]
      exact hsections.trans (by rw [sections_deliver]; rfl)

theorem Buffer.Within.filled (h : b.Within capacity) (hx : x.length ≤ capacity) :
    (b.filled x).Within capacity :=
  ⟨h.size, Nat.le_refl _, Nat.le_trans hx (Nat.le_of_eq h.size.symm)⟩

theorem Buffer.Within.emptied (h : b.Within capacity) : b.emptied.Within capacity :=
  ⟨h.size, Nat.le_refl 0, Nat.zero_le _⟩

theorem Buffer.Within.handOver (h : b.Within capacity) :
    (b.handOver parser seen).buffer.Within capacity := by
  rcases handOver_cases parser b seen with ⟨-, he⟩ | ⟨-, he⟩ | ⟨f, -, he⟩ |
    ⟨consumed, m, -, ⟨-, n, he, -⟩ | ⟨-, he⟩⟩
  · rw [he]
    exact h
  · rw [he]
    exact h.emptied
  · rw [he]
    exact h.emptied
  · rw [he]
    refine ⟨h.size, ?_, h.valid⟩
    have hle := h.unparsed
    simp only [Receiving.buffer, List.length_drop]
    omega
  · rw [he]
    exact h.emptied

theorem Buffer.Within.deliver (h : b.Within capacity) (hd : d.Fits capacity) :
    (b.deliver parser seen d).buffer.Within capacity := by
  cases d with
  | failed reason => exact h
  | bytes y =>
    cases y with
    | nil => exact h
    | cons z zs => exact (h.filled (x := z :: zs) hd).handOver

theorem Buffer.Within.run (h : r.buffer.Within capacity) (hfit : ∀ x ∈ reads, x.Fits capacity) :
    (r.run parser reads).1.buffer.Within capacity := by
  induction reads generalizing r with
  | nil => cases r <;> exact h
  | cons d rest ih =>
    cases r with
    | done => exact h
    | reading b seen =>
      exact ih (Buffer.Within.deliver h (hfit d List.mem_cons_self))
        fun x hx => hfit x (List.mem_cons_of_mem d hx)

theorem Buffer.Within.receive (h : b.Within capacity) (hfit : ∀ x ∈ reads, x.Fits capacity) :
    ((b.receive parser).run parser reads).1.buffer.Within capacity :=
  Buffer.Within.run h.handOver hfit

theorem Buffer.Reachable.within (h : Buffer.Reachable capacity b) : b.Within capacity := by
  induction h with
  | fresh => exact ⟨rfl, Nat.le_refl 0, Nat.zero_le _⟩
  | received _ parser fits ih => exact ih.receive fits

theorem Buffer.Within.head {b' : Buffer} (h : b.Within capacity)
    (hfit : ∀ x ∈ reads, x.Fits capacity) (hhead : b.IsHead parser reads b') :
    b'.Within capacity := by
  cases hhead with
  | found => exact h
  | @filled made x rest b' seen split some waits =>
    have hwaits : b'.Within capacity := by
      have hw : ((b.receive parser).run parser made).1.buffer.Within capacity :=
        h.receive fun y hy => hfit y (split ▸ List.mem_append_left _ hy)
      rwa [waits] at hw
    exact hwaits.filled (hfit (.bytes x) (by simp [split]))

end Calls

/-- What one call does with the bytes that the buffer holds and those that it reads. -/
structure Buffer.Conserves (parser : Parser) (b : Buffer) (reads : List Delivery)
    (capacity : Nat) : Prop where
  /-- The bounds hold whenever the call goes round, and after it. -/
  heads : ∀ b', b.IsHead parser reads b' → b'.Within capacity
  after : ((b.receive parser).run parser reads).1.buffer.Within capacity
  /-- The parser is handed what the buffer held and what the call has read, in this order. -/
  sections : ∃ made, reads = made ++ ((b.receive parser).run parser reads).2 ∧
    ((b.receive parser).run parser reads).1.sections =
      b.leftover ++ made.filterMap Delivery.section?
  /-- The call reads only when all that it holds is handed over. -/
  waits : ∀ made b' seen, (b.receive parser).run parser made = (.reading b' seen, []) →
    b'.unparsed = []
  /-- It brings a message just if the parser finds one that ends in the section it was handed. -/
  brings : ∀ m, ((b.receive parser).run parser reads).1.result? = some (.ok m) ↔
    ∃ before last rest consumed,
      ((b.receive parser).run parser reads).1.sections = before ++ last :: rest ∧
      parser (before ++ [last]) = .complete consumed m ∧ EndsIn before last consumed
  /-- What is kept then is what the sections hold beyond the message. -/
  kept : ∀ before last rest consumed m,
    ((b.receive parser).run parser reads).1.sections = before ++ last :: rest →
    parser (before ++ [last]) = .complete consumed m → EndsIn before last consumed →
    ((b.receive parser).run parser reads).1.buffer.unparsed =
        ((b.receive parser).run parser reads).1.sections.flatten.drop consumed ∧
      ((b.receive parser).run parser reads).1.buffer.unparsed.length + consumed =
        ((b.receive parser).run parser reads).1.sections.flatten.length
  /-- A message that ends elsewhere is a failure, which names the counts as they are. -/
  overreach : ∀ before last rest consumed m,
    ((b.receive parser).run parser reads).1.sections = before ++ last :: rest →
    parser (before ++ [last]) = .complete consumed m → ¬ EndsIn before last consumed →
    ((b.receive parser).run parser reads).1.result? =
      some (.error (.parseFailed (.overreach consumed (before ++ [last]).flatten.length)))
  /-- A failure leaves nothing to parse, and a failure to parse leaves nothing at all. -/
  failed : ∀ e, ((b.receive parser).run parser reads).1.result? = some (.error e) →
    ((b.receive parser).run parser reads).1.buffer.unparsed = [] ∧
      ∀ f, e = .parseFailed f → ((b.receive parser).run parser reads).1.buffer.valid = 0

section Faithful
variable {p : Parser} {r : Receiving} {before rest : List Bytes} {last : Bytes} {consumed : Nat}
variable {m : Message} {e : Error}

/-- Receiving in which the parser has answered a section with a message is over with that section. -/
theorem Receiving.Faithful.answered (h : r.Faithful p) (hs : r.sections = before ++ last :: rest)
    (ha : p (before ++ [last]) = .complete consumed m) :
    (EndsIn before last consumed ∧ r.result? = some (.ok m) ∧
        r.buffer.unparsed = r.sections.flatten.drop consumed ∧
        r.sections = before ++ [last]) ∨
      ¬ EndsIn before last consumed ∧
        r.result? = some (.error (.parseFailed
          (.overreach consumed (before ++ [last]).flatten.length))) := by
  have hne : p (before ++ [last]) ≠ .inProgress := by simp [ha]
  cases h with
  | reading undecided | unread undecided =>
    exact (hne (undecided before last rest hs)).elim
  | found undecided answer ends kept =>
    obtain ⟨rfl, rfl, rfl⟩ := undecided.decided hs hne
    obtain ⟨rfl, rfl⟩ := ParseOutcome.complete.inj (answer.symm.trans ha)
    exact .inl ⟨ends, rfl, kept, rfl⟩
  | overreached undecided answer ends =>
    obtain ⟨rfl, rfl, rfl⟩ := undecided.decided hs hne
    obtain ⟨rfl, rfl⟩ := ParseOutcome.complete.inj (answer.symm.trans ha)
    exact .inr ⟨ends, rfl⟩
  | broken undecided answer =>
    obtain ⟨rfl, rfl, rfl⟩ := undecided.decided hs hne
    cases answer.symm.trans ha

theorem Receiving.Faithful.brings_iff (h : r.Faithful p) : r.result? = some (.ok m) ↔
    ∃ before last rest consumed, r.sections = before ++ last :: rest ∧
      p (before ++ [last]) = .complete consumed m ∧ EndsIn before last consumed := by
  constructor
  · intro hr
    cases h with
    | @found b before last consumed m' undecided answer ends kept =>
      cases hr
      exact ⟨before, last, [], consumed, rfl, answer, ends⟩
    | reading | overreached | broken | unread => cases hr
  · rintro ⟨before, last, rest, consumed, hs, ha, hends⟩
    rcases h.answered hs ha with ⟨-, hr, -⟩ | ⟨hno, -⟩
    · exact hr
    · exact (hno hends).elim

theorem Receiving.Faithful.failed (h : r.Faithful p) (he : r.result? = some (.error e)) :
    r.buffer.unparsed = [] ∧ ∀ f, e = .parseFailed f → r.buffer.valid = 0 := by
  cases h with
  | reading | found => cases he
  | overreached | broken => exact ⟨rfl, fun _ _ => rfl⟩
  | unread undecided empty failure =>
    cases he
    exact ⟨empty, fun f hf => (failure f hf).elim⟩

end Faithful

/-- Whatever calls were made on a buffer, the next one hands its parser each byte once, keeps just
what the parser leaves over of them, and keeps within the bounds of the buffer. -/
theorem bytes_conserved {capacity : Nat} {b : Buffer} (h : b.Reachable capacity) (parser : Parser)
    {reads : List Delivery} (hfit : ∀ x ∈ reads, x.Fits capacity) :
    b.Conserves parser reads capacity := by
  have hfaithful := @faithful_receive parser b reads
  refine ⟨fun b' => h.within.head hfit, h.within.receive hfit, ?_, ?_,
    fun m => hfaithful.brings_iff, ?_, ?_, fun e => hfaithful.failed⟩
  · obtain ⟨made, hmade, hsections⟩ := @sections_run parser reads (b.receive parser)
    exact ⟨made, hmade, by rw [hsections, Buffer.receive, sections_handOver, List.nil_append]⟩
  · intro made b' seen hwaits
    have hw := @faithful_receive parser b made
    rw [hwaits] at hw
    cases hw with
    | reading undecided empty => exact empty
  · intro before last rest consumed m hs ha hends
    rcases hfaithful.answered hs ha with ⟨-, -, hkept, hlast⟩ | ⟨hno, -⟩
    · refine ⟨hkept, ?_⟩
      have hle := hends.2
      rw [← hlast] at hle
      rw [hkept, List.length_drop, Nat.sub_add_cancel hle]
    · exact (hno hends).elim
  · intro before last rest consumed m hs ha hno
    rcases hfaithful.answered hs ha with ⟨hends, -⟩ | ⟨-, hr⟩
    · exact (hno hends).elim
    · exact hr

/-- A parser that takes the first two bytes it is handed for a message, whether or not they are in
the last section. -/
def hastyParser : Parser := fun sections =>
  if sections.flatten.length < 2 then .inProgress
  else .complete 2 { transaction := .join, role := .confirm, node := "node", space := "space" }

/-- What a buffer of four bytes holds after a message of two. -/
def halfRead : Buffer :=
  ((Buffer.receive hastyParser { capacity := 4 }).run hastyParser [.bytes [1, 2, 3]]).1.buffer

theorem bytes_conserved_of_leftover_byte :
    halfRead.Reachable 4 ∧ (∀ x ∈ [Delivery.bytes [4, 5]], x.Fits 4) ∧
      halfRead.Conserves hastyParser [.bytes [4, 5]] 4 := by
  have hreach : halfRead.Reachable 4 := by
    refine .received .fresh hastyParser ?_
    simp [Delivery.Fits]
  have hfit : ∀ x ∈ [Delivery.bytes [4, 5]], x.Fits 4 := by simp [Delivery.Fits]
  exact ⟨hreach, hfit, bytes_conserved hreach hastyParser hfit⟩

example : halfRead.unparsed = [3] ∧
    ((halfRead.receive hastyParser).run hastyParser [.bytes [4, 5]]).1.sections = [[3], [4, 5]] ∧
    ((halfRead.receive hastyParser).run hastyParser [.bytes [4, 5]]).1.buffer.unparsed = [5] := by
  decide +kernel

end SpaceGateway
