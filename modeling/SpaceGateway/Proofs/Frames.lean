import SpaceGateway.Proofs.Arrival
import SpaceGateway.Proofs.MessageText
/-!
Frames in a stream. The text of a message whose fields do not hold the end tag does not hold it
either, for what is written around the fields has no part of it. So the parser finds each frame where
it ends, and gives back its message.
-/
namespace SpaceGateway.Framed

/-- Whether no end tag stands in these bytes. -/
def Tagless (b : Bytes) : Prop := ¬ endTag <:+: b

section Tagless
variable {a b p : Bytes} {x : UInt8} {v : Json}

theorem tagless_nil : Tagless [] := by
  intro h
  exact endTag_ne_nil (List.infix_nil.1 h)

/-- An end tag begins with a byte of its own. -/
theorem tagless_cons (hx : x ≠ 60) (hb : Tagless b) : Tagless (x :: b) := by
  intro h
  rcases List.infix_cons_iff.1 h with h | h
  · obtain ⟨t, ht⟩ := h
    exact hx (List.cons.inj ht).1.symm
  · exact hb h

theorem tagless_append_left (ha : 60 ∉ a) (hb : Tagless b) : Tagless (a ++ b) := by
  induction a with
  | nil => exact hb
  | cons x a ih =>
    simp only [List.mem_cons, not_or] at ha
    exact tagless_cons (Ne.symm ha.1) (ih ha.2)

theorem tagless_of_not_mem (ha : 60 ∉ a) : Tagless a := by
  have h := tagless_append_left ha tagless_nil
  rwa [List.append_nil] at h

/-- No end tag reaches across a byte that it does not have. -/
theorem tagless_append (hx : x ∉ endTag) (ha : Tagless a) (hb : Tagless b) :
    Tagless (a ++ x :: b) := by
  intro h
  rcases List.infix_append_iff_ne_nil.1 h with h | h | ⟨l₁, l₂, -, h₂, he, -, hp⟩
  · exact ha h
  · refine tagless_cons ?_ hb h
    rintro rfl
    exact hx (by decide)
  · cases l₂ with
    | nil => exact h₂ rfl
    | cons y l₂ =>
      obtain ⟨t, ht⟩ := hp
      obtain rfl := (List.cons.inj ht).1
      exact hx (by simp [he])

theorem not_mem_escapeByte (h : ¬ Json.Plain x) : 60 ∉ Json.escapeByte x := by
  have hsmall : ∀ n : Fin 32, 60 ∉ Json.escapeByte (UInt8.ofNat n.val) := by decide +kernel
  by_cases h34 : x = 34
  · subst h34; decide
  by_cases h92 : x = 92
  · subst h92; decide
  have h32 : x < 32 := by
    apply Decidable.byContradiction
    intro h32
    exact h ⟨h34, h92, h32⟩
  have := hsmall ⟨x.toNat, h32⟩
  rwa [UInt8.ofNat_toNat] at this

theorem begins_escapeByte (h : ¬ Json.Plain x) : ∃ w, Json.escapeByte x = 92 :: w := by
  have hw := Json.written_escapeByte h
  generalize Json.escapeByte x = e at hw ⊢
  cases hw with
  | letter => exact ⟨_, rfl⟩
  | unit => exact ⟨_, rfl⟩

/-- What a literal begins with, if nothing in it is escaped, its text begins with. -/
theorem prefix_of_escape (hp : ∀ x ∈ p, Json.Plain x) (h : p <+: Json.escape b) : p <+: b := by
  induction p generalizing b with
  | nil => exact List.nil_prefix
  | cons y p ih =>
    cases b with
    | nil => cases List.prefix_nil.1 h
    | cons x b =>
      rw [Json.escape_cons] at h
      by_cases hx : Json.Plain x
      · rw [Json.escapeByte_plain hx, List.singleton_append, List.cons_prefix_cons] at h
        obtain ⟨rfl, h⟩ := h
        rw [List.cons_prefix_cons]
        exact ⟨rfl, ih (fun x hx => hp x (List.mem_cons_of_mem _ hx)) h⟩
      · obtain ⟨w, hw⟩ := begins_escapeByte hx
        rw [hw, List.cons_append, List.cons_prefix_cons] at h
        have hy := hp y List.mem_cons_self
        exact (hy.2.1 h.1).elim

theorem plain_endTag : ∀ x ∈ endTag, Json.Plain x := by
  have h : endTag.all (fun x => decide (Json.Plain x)) = true := rfl
  intro x hx
  simpa using List.all_eq_true.1 h x hx

theorem tagless_escape (h : Tagless b) : Tagless (Json.escape b) := by
  induction b with
  | nil => exact h
  | cons x b ih =>
    have hb : Tagless b := fun hi => h (List.infix_cons_iff.2 (.inr hi))
    by_cases hx : Json.Plain x
    · intro hi
      have hi' := hi
      rw [Json.escape_cons, Json.escapeByte_plain hx, List.singleton_append, List.infix_cons_iff] at hi'
      rcases hi' with hi' | hi'
      · have hp : endTag <+: Json.escape (x :: b) := by
          rw [Json.escape_cons, Json.escapeByte_plain hx]
          exact hi'
        exact h (List.IsPrefix.isInfix (prefix_of_escape plain_endTag hp))
      · exact ih hb hi'
    · rw [Json.escape_cons]
      exact tagless_append_left (not_mem_escapeByte hx) (ih hb)

mutual
/-- Whether no text in a value holds the end tag. -/
def Free : Json → Prop
  | .null | .bool _ | .number _ => True
  | .string s => Tagless (utf8 s)
  | .array items => FreeAll items
  | .object members => FreeMembers members

def FreeAll : List Json → Prop
  | [] => True
  | v :: rest => Free v ∧ FreeAll rest

def FreeMembers : List (String × Json) → Prop
  | [] => True
  | (key, v) :: rest => Tagless (utf8 key) ∧ Free v ∧ FreeMembers rest
end

theorem tagless_quoted {s : String} (h : Tagless (utf8 s)) : Tagless (Json.quoted s) := by
  refine tagless_cons (by decide) ?_
  exact tagless_append (by decide) (tagless_escape h) tagless_nil

theorem tagless_decimal (n : Nat) : Tagless (Json.decimal n) := by
  apply tagless_of_not_mem
  intro h
  have := (Json.decimal_spells n).digits.digits 60 h
  exact absurd this (by decide)

mutual
/-- What is written around texts does not make an end tag. -/
theorem tagless_render : ∀ v : Json, Free v → Tagless v.render
  | .null, _ => tagless_of_not_mem (by decide)
  | .bool true, _ => tagless_of_not_mem (by decide)
  | .bool false, _ => tagless_of_not_mem (by decide)
  | .number n, _ => tagless_decimal n
  | .string _, h => tagless_quoted h
  | .array items, h =>
    tagless_cons (by decide) (tagless_append (by decide) (tagless_items items h) tagless_nil)
  | .object members, h =>
    tagless_cons (by decide) (tagless_append (by decide) (tagless_members members h) tagless_nil)

theorem tagless_items : ∀ items, FreeAll items → Tagless (Json.renderItems items)
  | [], _ => tagless_nil
  | [v], h => tagless_render v h.1
  | v :: w :: rest, h =>
    tagless_append (by decide) (tagless_render v h.1) (tagless_items (w :: rest) h.2)

theorem tagless_members : ∀ members, FreeMembers members → Tagless (Json.renderMembers members)
  | [], _ => tagless_nil
  | [(_, v)], h => tagless_append (by decide) (tagless_quoted h.1) (tagless_render v h.2.1)
  | (_, v) :: w :: rest, h => by
    refine tagless_append (by decide) (tagless_quoted h.1) ?_
    exact tagless_append (by decide) (tagless_render v h.2.1) (tagless_members (w :: rest) h.2.2)
end

end Tagless

section Messages
variable {m : Message} {ms : List Message} {body t : Bytes} {describe : Json.Fault → String}

/-- The texts of a message. -/
def texts (m : Message) : List String :=
  [m.node, m.space] ++ (m.status.map Status.text).toList ++ m.subscription.toList ++
    m.payload.toList ++ m.added.toList ++ m.removed.toList

theorem free_compact {rows : Json.Rows}
    (h : ∀ e, e ∈ rows → ∀ v, e.2 = some v → Tagless (utf8 e.1) ∧ Free v) :
    Free rows.compact := by
  rw [Json.Rows.compact, Free]
  induction rows with
  | nil => trivial
  | cons e rows ih =>
    have hrest := ih fun d hd => h d (List.mem_cons_of_mem e hd)
    obtain ⟨name, value⟩ := e
    cases value with
    | none => exact hrest
    | some v =>
      obtain ⟨hname, hv⟩ := h _ List.mem_cons_self v rfl
      exact ⟨hname, hv, hrest⟩

/-- Whether no text of a message holds the end tag. -/
def TaglessTexts (m : Message) : Prop := ∀ s ∈ texts m, Tagless (utf8 s)

instance : Decidable (TaglessTexts m) :=
  inferInstanceAs (Decidable (∀ s ∈ texts m, ¬ endTag <:+: utf8 s))

theorem free_json (h : TaglessTexts m) : Free m.json := by
  have htext (a : Option String) (ha : ∀ s ∈ a.toList, Tagless (utf8 s)) (v : Json)
      (hv : a.map .string = some v) : Free v := by
    obtain ⟨s, hs, rfl⟩ := Option.map_eq_some_iff.1 hv
    exact ha s (by simp [hs])
  have hnumber (a : Option UInt32) (v : Json)
      (hv : a.map (fun i => Json.number i.toNat) = some v) : Free v := by
    obtain ⟨n, -, rfl⟩ := Option.map_eq_some_iff.1 hv
    trivial
  have hnames : ∀ name ∈ m.rows.map Prod.fst, 60 ∉ utf8 name := by
    have h : ∀ name ∈ Message.fields.map (·.name), 60 ∉ utf8 name := by decide
    exact h
  rw [m.json_eq]
  refine free_compact fun e he v hv => ?_
  refine ⟨tagless_of_not_mem (hnames _ (List.mem_map_of_mem he)), ?_⟩
  simp only [Message.rows, List.mem_cons, List.not_mem_nil, or_false] at he
  obtain rfl | rfl | rfl | rfl | rfl | rfl | rfl | rfl | rfl | rfl | rfl := he
  · cases hv
    cases m.transaction <;> exact tagless_of_not_mem (by decide)
  · cases hv
    cases m.role <;> exact tagless_of_not_mem (by decide)
  · exact hnumber _ v hv
  · cases hv
    exact h m.node (by simp [texts])
  · cases hv
    exact h m.space (by simp [texts])
  · obtain ⟨s, hs, rfl⟩ := Option.map_eq_some_iff.1 hv
    cases s with
    | success => exact tagless_of_not_mem (by decide)
    | failure word =>
      refine ⟨tagless_of_not_mem (by decide), ?_, trivial⟩
      exact h word (by simp [texts, hs, Status.text])
  · exact htext _ (fun s hs => h s (by simp_all [texts])) v hv
  · exact hnumber _ v hv
  · exact htext _ (fun s hs => h s (by simp_all [texts])) v hv
  · exact htext _ (fun s hs => h s (by simp_all [texts])) v hv
  · exact htext _ (fun s hs => h s (by simp_all [texts])) v hv

theorem tagless_startTag (hb : Tagless body) : Tagless (startTag ++ body) := by
  have hrest : Tagless (startTag.tail ++ body) := tagless_append_left (by decide) hb
  intro h
  rcases List.infix_cons_iff.1 (show endTag <:+: 60 :: (startTag.tail ++ body) from h) with h | h
  · obtain ⟨t, ht⟩ := h
    have hsecond := congrArg (·[1]?) ht
    cases hsecond
  · exact hrest h

/-- An end tag does not go on in another one. -/
theorem endTag_alone : ∀ d, d < 15 → 0 < d → ¬ endTag.drop d <+: endTag := by decide

/-- The end tag of a frame is the first one in it. -/
theorem find?_frame (hb : Tagless body) :
    Bytes.find? endTag (frame body) = some (startTag ++ body).length := by
  have ha := tagless_startTag hb
  rw [frame, Bytes.find?_eq_some_iff endTag_ne_nil]
  generalize startTag ++ body = a at ha
  refine ⟨by simp, ?_⟩
  intro j hj hp
  rw [List.drop_append_of_le_length (Nat.le_of_lt hj)] at hp
  by_cases hfit : endTag.length ≤ (a.drop j).length
  · have hin := List.prefix_of_prefix_length_le hp (List.prefix_append _ _) hfit
    exact ha (hin.isInfix.trans (List.drop_suffix j a).isInfix)
  · rw [List.length_drop, length_endTag] at hfit
    have hd : a.drop j <+: endTag := by
      refine List.prefix_of_prefix_length_le (List.prefix_append _ _) hp ?_
      rw [List.length_drop, length_endTag]
      omega
    obtain ⟨u, hu⟩ := hd
    have hlen : (a.drop j).length = a.length - j := List.length_drop
    refine endTag_alone (a.length - j) (by omega) (by omega) ?_
    have htail : endTag.drop (a.length - j) = u := by
      rw [← hlen, ← hu, List.drop_left]
    rw [htail]
    rw [← hu] at hp
    rw [hu] at hp
    rw [← hu, List.prefix_append_right_inj] at hp
    rwa [hu] at hp

theorem head_frame : head (frame body) = frame body := rfl

theorem between_frame : between (frame body) (startTag ++ body).length = body := by
  rw [between, head_frame, Nat.sub_self, Nat.zero_add, frame, List.take_left, List.drop_left]

/-- A frame is answered by what its body is read as. -/
theorem parse_frame (ha : Tagless a) :
    parse describe (frame a) =
      match Message.decode a with
      | .ok m => .complete (frame a).length m
      | .error f => .fault (.malformed (describe f)) := by
  have hagrees : agrees startTag (head (frame a)) = true := by
    rw [head_frame, agrees_iff, frame, List.append_assoc]
    exact Or.inl (List.prefix_append _ _)
  have hlength : (frame a).length = (startTag ++ a).length + endTag.length := List.length_append
  cases hd : Message.decode a <;>
    simp only [parse_finished hagrees (find?_frame ha), between_frame, hd, hlength]

/-- The parser finds the frame of a message at the front of a stream. -/
theorem parse_encode (h : TaglessTexts m) (t : Bytes) :
    parse describe (encode m ++ t) = .complete (encode m).length m := by
  have hb : Tagless m.render := tagless_render m.json (free_json h)
  have hp : parse describe (encode m) = .complete (encode m).length m := by
    simp only [encode, parse_frame hb, Message.decode_render]
  rw [parse_append (by rw [hp]; nofun), hp]

/-- What a server sends to bring these messages. -/
def stream (ms : List Message) : Bytes := ms.flatMap encode

/-- Such a stream splits into its messages. -/
theorem splits_stream (h : ∀ m ∈ ms, TaglessTexts m) :
    Splits (parse describe) (stream ms) ms .peerClosed := by
  induction ms with
  | nil => exact .ended (.inl rfl)
  | cons m ms ih =>
    have he : stream (m :: ms) = encode m ++ stream ms := List.flatMap_cons
    rw [he]
    refine .message (parse_encode (h m List.mem_cons_self) _) ?_
    rw [List.drop_left]
    exact ih fun m hm => h m (List.mem_cons_of_mem _ hm)

end Messages
end SpaceGateway.Framed
