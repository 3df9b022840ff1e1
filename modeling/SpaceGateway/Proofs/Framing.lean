import SpaceGateway.Proofs.Acceptance
import SpaceGateway.Proofs.Frames
/-!
What the parser makes of the frame of a message, with blanks in front of it and any bytes behind it.
An end tag in the text of a message stands in one of its fields, since quotes and separators have no
part in it. So if no field holds one, the frame ends where it should. If one does, the frame is cut
short inside a literal, and what stands before the cut is never a message.
-/
namespace SpaceGateway

/-- Whether a parser, given a stream in whatever sections, is silent until it has seen `n` bytes of it,
and answers `o` from then on. -/
structure Parser.Answers (p : Parser) (stream : Bytes) (n : Nat) (o : ParseOutcome) : Prop where
  silent : ∀ {fed later}, (fed ++ later).flatten = stream → fed.flatten.length < n →
    p fed = .inProgress
  speaks : ∀ {fed later}, (fed ++ later).flatten = stream → n ≤ fed.flatten.length → p fed = o

/-- The same answer, with `n` more bytes in front. -/
def ParseOutcome.behind (n : Nat) : ParseOutcome → ParseOutcome
  | .complete c m => .complete (n + c) m
  | o => o

namespace Json

mutual
/-- The texts in a value, the names of members among them. -/
def literals : Json → List String
  | .null | .bool _ | .number _ => []
  | .string s => [s]
  | .array items => itemLiterals items
  | .object members => memberLiterals members

def itemLiterals : List Json → List String
  | [] => []
  | v :: rest => literals v ++ itemLiterals rest

def memberLiterals : List (String × Json) → List String
  | [] => []
  | (key, v) :: rest => key :: literals v ++ memberLiterals rest
end

theorem escape_append (a b : Bytes) : escape (a ++ b) = escape a ++ escape b := List.flatMap_append

theorem escape_plain {p : Bytes} (hp : ∀ x ∈ p, Plain x) : escape p = p := by
  induction p with
  | nil => rfl
  | cons x p ih =>
    rw [escape_cons, escapeByte_plain (hp x List.mem_cons_self),
      ih fun y hy => hp y (List.mem_cons_of_mem x hy), List.singleton_append]

end Json

namespace Framed

section Places
variable {a b e r u v : Bytes} {x : UInt8} {s : String} {texts texts' : List String}

/-- An end tag does not begin among bytes that are not its first one. -/
theorem tag_behind (he : 60 ∉ e) (h : a ++ (endTag ++ b) = e ++ r) :
    ∃ c, a = e ++ c ∧ r = c ++ (endTag ++ b) := by
  obtain ⟨c, hc, hr⟩ | ⟨c, hc, hr⟩ := List.append_eq_append_iff.1 h
  · cases c with
    | nil => exact ⟨[], by rw [hc, List.append_nil, List.append_nil], hr.symm⟩
    | cons y c =>
      have hy : 60 = y := (List.cons.inj hr).1
      exact (he (by simp [hc, hy])).elim
  · exact ⟨c, hc, hr⟩

/-- An end tag stands on one side of a byte that it does not have. -/
theorem tag_beside (hx : x ∉ endTag) (h : a ++ (endTag ++ b) = u ++ x :: v) :
    (∃ c, u = a ++ (endTag ++ c) ∧ b = c ++ x :: v) ∨
      ∃ c, a = u ++ x :: c ∧ v = c ++ (endTag ++ b) := by
  have h60 : x ≠ 60 := by
    rintro rfl
    exact hx (by decide)
  obtain ⟨c, hu, hc⟩ | ⟨c, ha, hc⟩ := List.append_eq_append_iff.1 h
  · obtain ⟨d, hd, hv⟩ | ⟨d, hd, hb⟩ := List.append_eq_append_iff.1 hc
    · exact Or.inl ⟨d, by rw [hu, hd], hv⟩
    · cases d with
      | nil =>
        rw [List.append_nil] at hd
        exact Or.inl ⟨[], by rw [hu, hd, List.append_nil], hb.symm⟩
      | cons y d =>
        obtain ⟨rfl, -⟩ := List.cons.inj hb
        exact (hx (by simp [hd])).elim
  · cases c with
    | nil => exact (h60 (List.cons.inj hc).1).elim
    | cons y c =>
      obtain ⟨rfl, hv⟩ := List.cons.inj hc
      exact Or.inr ⟨c, ha, hv⟩

/-- An end tag in the inside of a literal stands in its text. -/
theorem tag_in_escape (h : a ++ (endTag ++ b) = Json.escape v) :
    ∃ p q, v = p ++ (endTag ++ q) ∧ a = Json.escape p ∧ b = Json.escape q := by
  induction v generalizing a with
  | nil =>
    have hlen := congrArg List.length h
    simp [Json.escape] at hlen
  | cons y v ih =>
    have hbehind (he : 60 ∉ Json.escapeByte y) : ∃ p q, y :: v = p ++ (endTag ++ q) ∧
        a = Json.escape p ∧ b = Json.escape q := by
      obtain ⟨c, rfl, hc⟩ := tag_behind he h
      obtain ⟨p, q, rfl, rfl, rfl⟩ := ih hc.symm
      exact ⟨y :: p, q, rfl, Json.escape_cons.symm, rfl⟩
    by_cases hy : Json.Plain y
    · cases a with
      | nil =>
        have hp := prefix_of_escape plain_endTag (h ▸ List.prefix_append endTag b)
        obtain ⟨q, hq⟩ := hp
        refine ⟨[], q, hq.symm, rfl, ?_⟩
        rw [← hq, Json.escape_append, Json.escape_plain plain_endTag] at h
        exact List.append_cancel_left h
      | cons z a =>
        rw [Json.escape_cons, Json.escapeByte_plain hy] at h
        obtain ⟨rfl, htail⟩ := List.cons.inj h
        obtain ⟨p, q, rfl, rfl, rfl⟩ := ih htail
        refine ⟨z :: p, q, rfl, ?_, rfl⟩
        rw [Json.escape_cons, Json.escapeByte_plain hy]
        rfl
    · exact hbehind (not_mem_escapeByte hy)

/-- Whether what stands between these bytes stands in a literal, whose text is one of these and holds
an end tag there. -/
def InLiteral (texts : List String) (a b : Bytes) : Prop :=
  ∃ s ∈ texts, ∃ front p q back, utf8 s = p ++ (endTag ++ q) ∧
    a = front ++ 34 :: Json.escape p ∧ b = Json.escape q ++ 34 :: back

theorem InLiteral.mono (h : InLiteral texts a b) (ht : texts ⊆ texts') : InLiteral texts' a b := by
  obtain ⟨s, hs, h⟩ := h
  exact ⟨s, ht hs, h⟩

theorem InLiteral.widen (h : InLiteral texts a b) (u v : Bytes) :
    InLiteral texts (u ++ a) (b ++ v) := by
  obtain ⟨s, hs, front, p, q, back, ht, rfl, rfl⟩ := h
  exact ⟨s, hs, u ++ front, p, q, back ++ v, ht, by simp, by simp⟩

/-- Whether every end tag in these bytes stands in a literal that has one of these texts. -/
def TagsIn (texts : List String) (u : Bytes) : Prop :=
  ∀ a b, a ++ (endTag ++ b) = u → InLiteral texts a b

theorem TagsIn.of_not_mem (hu : 60 ∉ u) : TagsIn texts u := by
  rintro a b rfl
  have h60 : (60 : UInt8) ∈ endTag := by decide
  exact (hu (by simp [h60])).elim

theorem TagsIn.mono (h : TagsIn texts u) (ht : texts ⊆ texts') : TagsIn texts' u :=
  fun a b he => (h a b he).mono ht

theorem TagsIn.nil : TagsIn [] [] := .of_not_mem (by simp)

theorem TagsIn.append (hx : x ∉ endTag) (hu : TagsIn texts u) (hv : TagsIn texts' v) :
    TagsIn (texts ++ texts') (u ++ x :: v) := by
  intro a b h
  obtain ⟨c, hc, rfl⟩ | ⟨c, rfl, hc⟩ := tag_beside hx h
  · have hleft := (hu a c hc.symm).widen [] (x :: v)
    exact hleft.mono (List.subset_append_left texts texts')
  · have hright := (hv c b hc.symm).widen (u ++ [x]) []
    rw [List.append_nil, List.append_assoc, List.singleton_append] at hright
    exact hright.mono (List.subset_append_right texts texts')

/-- As `append`, for a byte at the front. -/
theorem TagsIn.cons (hx : x ∉ endTag) (hv : TagsIn texts v) : TagsIn texts (x :: v) :=
  TagsIn.nil.append hx hv

/-- As `append`, for a byte at the end. -/
theorem TagsIn.concat (hx : x ∉ endTag) (hu : TagsIn texts u) : TagsIn texts (u ++ [x]) := by
  have h := hu.append hx .nil
  rwa [List.append_nil] at h

theorem tagsIn_quoted (s : String) : TagsIn [s] (Json.quoted s) := by
  intro a b h
  obtain ⟨a, rfl, hr⟩ := @tag_behind a b [34] _ (by decide) h
  obtain ⟨c, hc, hb⟩ | ⟨c, -, hc⟩ := tag_beside (x := 34) (by decide) hr.symm
  · obtain ⟨p, q, hp, rfl, rfl⟩ := tag_in_escape hc.symm
    exact ⟨s, List.mem_singleton_self s, [], p, q, [], hp, rfl, hb⟩
  · cases c <;> cases hc

mutual
/-- An end tag in a written value stands in one of its literals. -/
theorem tagsIn_render : ∀ v : Json, TagsIn v.literals v.render
  | .null | .bool true | .bool false => .of_not_mem (by decide)
  | .number n => by
    refine .of_not_mem fun h => ?_
    have := (Json.decimal_spells n).digits.digits 60 h
    exact absurd this (by decide)
  | .string s => tagsIn_quoted s
  | .array items => ((tagsIn_renderItems items).concat (by decide)).cons (by decide)
  | .object members => ((tagsIn_renderMembers members).concat (by decide)).cons (by decide)

theorem tagsIn_renderItems : ∀ items, TagsIn (Json.itemLiterals items) (Json.renderItems items)
  | [] => .of_not_mem (by decide)
  | [v] => (tagsIn_render v).mono (List.subset_append_left _ _)
  | v :: w :: rest => by
    rw [Json.renderItems_cons]
    exact (tagsIn_render v).append (by decide) (tagsIn_renderItems (w :: rest))

theorem tagsIn_renderMembers : ∀ members,
    TagsIn (Json.memberLiterals members) (Json.renderMembers members)
  | [] => .of_not_mem (by decide)
  | [(key, v)] => by
    have h := (tagsIn_quoted key).append (x := 58) (by decide) (tagsIn_render v)
    exact h.mono (List.subset_append_left _ _)
  | (key, v) :: w :: rest => by
    have hrest := (tagsIn_render v).append (x := 44) (by decide) (tagsIn_renderMembers (w :: rest))
    have h := (tagsIn_quoted key).append (x := 58) (by decide) hrest
    rwa [← Json.renderMembers_cons] at h
end

theorem infix_quoted (s : String) : Json.escape (utf8 s) <:+: Json.quoted s := ⟨[34], [34], rfl⟩

theorem infix_left (h : e <:+: u) : e <:+: u ++ x :: v := h.trans (List.prefix_append _ _).isInfix

theorem infix_right (h : e <:+: v) : e <:+: u ++ x :: v :=
  h.trans ((List.suffix_cons _ _).trans (List.suffix_append _ _)).isInfix

mutual
/-- The text of a value holds each of its literals. -/
theorem infix_render : ∀ (v : Json) (s : String), s ∈ v.literals →
    Json.escape (utf8 s) <:+: v.render
  | .string t, s, h => by
    obtain rfl := List.mem_singleton.1 h
    exact infix_quoted s
  | .array items, s, h => infix_right (u := []) (infix_left (infix_renderItems items s h))
  | .object members, s, h => infix_right (u := []) (infix_left (infix_renderMembers members s h))

theorem infix_renderItems : ∀ (items : List Json) (s : String), s ∈ Json.itemLiterals items →
    Json.escape (utf8 s) <:+: Json.renderItems items
  | [v], s, h => infix_render v s (by simpa [Json.itemLiterals] using h)
  | v :: w :: rest, s, h => by
    rw [Json.renderItems_cons]
    obtain h | h := List.mem_append.1 h
    · exact infix_left (infix_render v s h)
    · exact infix_right (infix_renderItems (w :: rest) s h)

theorem infix_renderMembers : ∀ (members : List (String × Json)) (s : String),
    s ∈ Json.memberLiterals members → Json.escape (utf8 s) <:+: Json.renderMembers members
  | [(key, v)], s, h => by
    have h : s = key ∨ s ∈ v.literals := by simpa [Json.memberLiterals] using h
    obtain rfl | h := h
    · exact infix_left (infix_quoted s)
    · exact infix_right (infix_render v s h)
  | (key, v) :: w :: rest, s, h => by
    rw [Json.renderMembers_cons]
    obtain h | h := List.mem_append.1 h
    · obtain rfl | h := List.mem_cons.1 h
      · exact infix_left (infix_quoted s)
      · exact infix_right (infix_left (infix_render v s h))
    · exact infix_right (infix_right (infix_renderMembers (w :: rest) s h))
end

end Places
end Framed

namespace Status

theorem demanding_ofNode : Json.Demanding ofNode :=
  Json.demanding_readVariant fun shape n a h => by
    cases shape with
    | bare =>
      cases hn : n.readNull with
      | ok => exact Json.demanding_readNull n _ hn
      | error => simp [hn, bind, Except.bind] at h
    | worded =>
      cases hn : n.readText with
      | ok => exact Json.demanding_readText n _ hn
      | error => simp [hn, bind, Except.bind] at h

end Status

namespace Message
variable {n : Json.Node} {m : Message}

theorem demanding_fields : ∀ f ∈ fields, f.Demanding := by
  have htext := Json.demanding_readText
  have hnumber := Json.demanding_readUInt32.option
  have hoption := htext.option
  simp only [fields, List.forall_mem_cons, List.not_mem_nil, false_imp_iff, implies_true, and_true]
  exact ⟨Json.demanding_readPlain.field _, Json.demanding_readPlain.field _, hnumber.field _,
    htext.field _, htext.field _, Status.demanding_ofNode.option.field _, hoption.field _,
    hnumber.field _, hoption.field _, hoption.field _, hoption.field _⟩

/-- A message is read from a container that is not broken. -/
theorem read_ofNode (h : ofNode n = .ok m) : n.IsContainer ∧ n.blocked = none := by
  simp only [ofNode, bind, Except.bind] at h
  split at h
  · cases h
  · rename_i hr
    exact Json.container_of_readRecord demanding_fields hr

/-- No front of a message's text is read as a message. -/
theorem decode_front {s t : Bytes} (h : m.render = s ++ t) (ht : t ≠ []) :
    ∃ f, decode s = .error f := by
  have hspelt : Json.Spelt (s ++ t) m.json.node := h ▸ Json.spelt_render m.json m.fit_rows.compact
  exact Json.decode_front (fun n m h => (read_ofNode h).2) (fun n m h => (read_ofNode h).1) hspelt
    trivial ht

end Message

namespace Framed

section Messages
variable {m : Message} {a b w t : Bytes} {n : Nat} {o : ParseOutcome} {describe : Json.Fault → String}

theorem mem_memberLiterals {members : List (String × Json)} {s : String} :
    s ∈ Json.memberLiterals members ↔ ∃ e ∈ members, s = e.1 ∨ s ∈ e.2.literals := by
  induction members with
  | nil => simp [Json.memberLiterals]
  | cons e members ih => simp [Json.memberLiterals, ih, or_assoc]

theorem mem_compact {rows : Json.Rows} {s : String} (hs : ∀ e ∈ rows, s ≠ e.1) :
    s ∈ rows.compact.literals ↔ ∃ e ∈ rows, ∃ v ∈ e.2, s ∈ v.literals := by
  rw [Json.Rows.compact, Json.literals, mem_memberLiterals]
  simp only [List.mem_filterMap, Option.map_eq_some_iff]
  constructor
  · rintro ⟨_, ⟨e, he, v, hv, rfl⟩, rfl | h⟩
    · exact (hs e he rfl).elim
    · exact ⟨e, he, v, hv, h⟩
  · rintro ⟨e, he, v, hv, h⟩
    exact ⟨(e.1, v), ⟨e, he, v, hv, rfl⟩, Or.inr h⟩

/-- The texts of a message are those of its literals that can hold an end tag. -/
theorem mem_texts_iff {s : String} (hs : endTag <:+: utf8 s) :
    s ∈ texts m ↔ s ∈ m.json.literals := by
  have hne (word : String) (h : 60 ∉ utf8 word) : s ≠ word := by
    rintro rfl
    exact h (hs.subset (by decide))
  have hnames : ∀ e ∈ m.rows, s ≠ e.1 := by
    have h : ∀ name ∈ Message.fields.map (·.name), 60 ∉ utf8 name := by decide
    intro e he
    exact hne e.1 (h e.1 (List.mem_map_of_mem (f := Prod.fst) he))
  have htransaction : s ≠ m.transaction.spelling := by
    cases m.transaction <;> exact hne _ (by decide)
  have hrole : s ≠ m.role.spelling := by
    cases m.role <;> exact hne _ (by decide)
  have hstatus (st : Status) : s ∈ st.json.literals ↔ st.text = s := by
    cases st with
    | success => exact List.mem_singleton.trans eq_comm
    | failure word =>
      have hword := hne "failure" (by decide)
      simp [Status.json, Json.literals, Json.memberLiterals, Status.text, hword, eq_comm]
  rw [m.json_eq, mem_compact hnames]
  simp [Message.rows, texts, Transaction.json, Role.json, Json.literals, htransaction, hrole, hstatus]

theorem find?_blank (hw : ∀ x ∈ w, Bytes.isBlank x = true) :
    Bytes.find? endTag (w ++ b) = (Bytes.find? endTag b).map (w.length + ·) := by
  induction w with
  | nil => simp
  | cons x w ih =>
    have hx : x ≠ 60 := by
      rintro rfl
      exact absurd (hw 60 List.mem_cons_self) (by decide)
    have hno : ¬ endTag.isPrefixOf (x :: (w ++ b)) = true := by
      rw [List.isPrefixOf_iff_prefix]
      rintro ⟨u, hu⟩
      exact hx (List.cons.inj hu).1.symm
    rw [List.cons_append, Bytes.find?, if_neg hno, ih fun y hy => hw y (List.mem_cons_of_mem x hy),
      Option.map_map]
    congr 1
    funext i
    simp [Nat.add_right_comm]

/-- Blanks in front of a frame are counted, and no more. -/
theorem parse_blank (hw : ∀ x ∈ w, Bytes.isBlank x = true) :
    parse describe (w ++ b) = (parse describe b).behind w.length := by
  have hhead : head (w ++ b) = head b := List.dropWhile_append_of_pos hw
  by_cases ha : agrees startTag (head b) = true
  · have ha' : agrees startTag (head (w ++ b)) = true := by rwa [hhead]
    cases hf : Bytes.find? endTag b with
    | none =>
      rw [parse_unfinished ha hf, parse_unfinished ha' (by rw [find?_blank hw, hf, Option.map_none])]
      rfl
    | some i =>
      have hf' : Bytes.find? endTag (w ++ b) = some (w.length + i) := by
        rw [find?_blank hw, hf, Option.map_some]
      have hbetween : between (w ++ b) (w.length + i) = between b i := by
        have hle := length_head_le b
        rw [between, between, hhead, List.take_length_add_append, List.length_append,
          Nat.add_sub_assoc hle, Nat.add_assoc, List.drop_length_add_append]
      rw [parse_finished ha hf, parse_finished ha' hf', hbetween]
      cases Message.decode (between b i) with
      | ok m => simp [ParseOutcome.behind, Nat.add_assoc]
      | error f => rfl
  · rw [parse_missing ha, parse_missing (by rwa [hhead])]
    rfl

/-- Nothing is said of a frame before its last byte, and what is said then is final. -/
theorem answers_frame (hw : ∀ x ∈ w, Bytes.isBlank x = true) (ha : Tagless a) (t : Bytes) :
    (parser describe).Answers (w ++ (frame a ++ t)) (w.length + (frame a).length)
      ((parse describe (frame a)).behind w.length) where
  silent {fed later} hflat hlt := by
    rw [List.flatten_append, ← List.append_assoc] at hflat
    obtain ⟨u, hu⟩ : fed.flatten <+: w ++ frame a := by
      refine List.prefix_of_prefix_length_le ⟨_, hflat⟩ (List.prefix_append _ t) ?_
      rw [List.length_append]
      omega
    have hhead : head (fed.flatten ++ u) = frame a := by
      rw [hu]
      exact (List.dropWhile_append_of_pos hw).trans head_frame
    have hagrees : agrees startTag (head fed.flatten) = true := by
      refine agrees_head_of_append (t := u) ?_
      rw [hhead, agrees_iff, frame, List.append_assoc]
      exact Or.inl (List.prefix_append _ _)
    have hfind : Bytes.find? endTag (fed.flatten ++ u) = some (w.length + (startTag ++ a).length) := by
      rw [hu, find?_blank hw, find?_frame ha, Option.map_some]
    have hnone := Bytes.find?_of_append endTag_ne_nil hfind
    rw [if_neg] at hnone
    · exact parse_unfinished hagrees hnone
    · rw [frame, List.length_append] at hlt
      omega
  speaks {fed later} hflat hle := by
    rw [List.flatten_append, ← List.append_assoc] at hflat
    obtain ⟨u, hu⟩ : w ++ frame a <+: fed.flatten := by
      refine List.prefix_of_prefix_length_le (List.prefix_append _ t) ⟨_, hflat⟩ ?_
      rwa [List.length_append]
    have hne : parse describe (frame a) ≠ .inProgress := by
      rw [parse_frame ha]
      cases Message.decode a <;> simp
    have hp : parser describe fed = parse describe fed.flatten := rfl
    rw [hp, ← hu, List.append_assoc, parse_blank hw, parse_append hne]

/-- Where the first end tag stands in the text of a message: behind `a`, before `b`, and in a field. -/
structure FirstTag (m : Message) (a b : Bytes) : Prop where
  text : m.render = a ++ (endTag ++ b)
  first : Tagless a
  field : InLiteral (texts m) a b

theorem infix_of_texts (h : ¬ TaglessTexts m) : endTag <:+: m.render := by
  obtain ⟨s, hs, htag⟩ : ∃ s ∈ texts m, endTag <:+: utf8 s := by
    simpa [TaglessTexts, Tagless] using h
  have hescape : endTag <:+: Json.escape (utf8 s) := by
    obtain ⟨p, q, he⟩ := htag
    refine ⟨Json.escape p, Json.escape q, ?_⟩
    rw [← he, Json.escape_append, Json.escape_append, Json.escape_plain plain_endTag]
  exact hescape.trans (infix_render m.json s ((mem_texts_iff htag).1 hs))

/-- Of the end tags in some bytes one is the first. -/
theorem exists_first (u v : Bytes) :
    ∃ a b, u ++ (endTag ++ v) = a ++ (endTag ++ b) ∧ Tagless a := by
  by_cases hu : endTag <:+: u
  · obtain ⟨x, y, he⟩ := hu
    have hlt : x.length < u.length := by
      rw [← he, List.length_append, List.length_append, length_endTag]
      omega
    obtain ⟨a, b, hab, ha⟩ := exists_first x (y ++ (endTag ++ v))
    exact ⟨a, b, by rw [← hab, ← he]; simp, ha⟩
  · exact ⟨u, v, rfl, hu⟩
termination_by u.length

/-- If a field of a message holds an end tag, the first one in its text stands in a field. -/
theorem exists_firstTag (h : ¬ TaglessTexts m) : ∃ a b, FirstTag m a b := by
  obtain ⟨u, v, huv⟩ := infix_of_texts h
  obtain ⟨a, b, hab, ha⟩ := exists_first u v
  rw [← List.append_assoc, huv] at hab
  obtain ⟨s, hs, front, p, q, back, ht, hfront, hback⟩ := tagsIn_render m.json a b hab.symm
  refine ⟨a, b, hab, ha, s, ?_, front, p, q, back, ht, hfront, hback⟩
  refine (mem_texts_iff ⟨p, q, ?_⟩).2 hs
  rw [ht, List.append_assoc]

/-- A parser that is given the frame of a message, behind blanks and before anything else, in whatever
sections, is silent until the frame is complete and then finds the message, if no field of it holds an
end tag. If one does, the parser is silent until the first such tag is complete, and calls the frame
malformed from then on. -/
theorem answers_to_frame (hw : ∀ x ∈ w, Bytes.isBlank x = true) (m : Message) (t : Bytes)
    (describe : Json.Fault → String) :
    (TaglessTexts m → (parser describe).Answers (w ++ (encode m ++ t))
      (w.length + (encode m).length) (.complete (w.length + (encode m).length) m)) ∧
    (¬ TaglessTexts m → ∃ a b f, FirstTag m a b ∧
      (parser describe).Answers (w ++ (encode m ++ t)) (w.length + (startTag ++ a ++ endTag).length)
        (.fault (.malformed (describe f)))) := by
  constructor
  · intro h
    have hbody : Tagless m.render := tagless_render m.json (free_json h)
    have hparse : parse describe (encode m) = .complete (encode m).length m := by
      simpa using parse_encode h []
    have hanswers : (parser describe).Answers (w ++ (encode m ++ t)) (w.length + (encode m).length)
        ((parse describe (encode m)).behind w.length) := answers_frame hw hbody t
    rwa [hparse] at hanswers
  · intro h
    obtain ⟨a, b, hab⟩ := exists_firstTag h
    obtain ⟨f, hf⟩ := Message.decode_front hab.text (by simp [endTag_ne_nil])
    refine ⟨a, b, f, hab, ?_⟩
    have hstream : frame a ++ (b ++ (endTag ++ t)) = encode m ++ t := by
      simp [encode, frame, hab.text]
    have hparse : parse describe (frame a) = .fault (.malformed (describe f)) := by
      simp only [parse_frame hab.first, hf]
    have hanswers : (parser describe).Answers (w ++ (frame a ++ (b ++ (endTag ++ t))))
        (w.length + (frame a).length) ((parse describe (frame a)).behind w.length) :=
      answers_frame hw hab.first _
    rwa [hstream, hparse] at hanswers

/-- A message of which a field holds an end tag. Without its payload it has none. -/
def tagged : Message :=
  { transaction := .query, role := .confirm, node := "node", space := "space"
    status := some .success, payload := some "\"<a>\" </SSAP_message> </SSAP_message>" }

theorem answers_to_frame_of_tagged :
    (∀ x ∈ [32, 10], Bytes.isBlank x = true) ∧
    (TaglessTexts { tagged with payload := none } ∧
      codec.parser.Answers ([32, 10] ++ (encode { tagged with payload := none } ++ [60]))
        (2 + (encode { tagged with payload := none }).length)
        (.complete (2 + (encode { tagged with payload := none }).length)
          { tagged with payload := none })) ∧
    (¬ TaglessTexts tagged ∧ ∃ a b f, FirstTag tagged a b ∧
      codec.parser.Answers ([32, 10] ++ (encode tagged ++ [60]))
        (2 + (startTag ++ a ++ endTag).length) (.fault (.malformed (Json.Fault.message f)))) := by
  have hw : ∀ x ∈ [32, 10], Bytes.isBlank x = true := List.all_eq_true.1 rfl
  have hplain : TaglessTexts { tagged with payload := none } := by decide +kernel
  have htagged : ¬ TaglessTexts tagged := by decide +kernel
  exact ⟨hw, ⟨hplain, (answers_to_frame hw _ [60] Json.Fault.message).1 hplain⟩,
    htagged, (answers_to_frame hw tagged [60] Json.Fault.message).2 htagged⟩

end Messages
end Framed
end SpaceGateway
