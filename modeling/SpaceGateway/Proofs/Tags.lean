import SpaceGateway.Codec.Framed
import SpaceGateway.Proofs.Lawful
/-!
The parser of frames is lawful. What decides is where the first end tag stands: no byte after it
moves it, and a text that ends before it shows no other.
-/
namespace SpaceGateway

namespace Bytes

variable {tag a t b : Bytes} {i : Nat}

theorem prefix_drop_append (hi : i ≤ a.length) (h : tag <+: a.drop i) :
    tag <+: (a ++ t).drop i := by
  rw [List.drop_append_of_le_length hi]
  exact h.trans (List.prefix_append _ _)

theorem prefix_drop_of_append (hi : i + tag.length ≤ a.length) (h : tag <+: (a ++ t).drop i) :
    tag <+: a.drop i := by
  rw [List.drop_append_of_le_length (by omega)] at h
  apply List.prefix_of_prefix_length_le h (List.prefix_append _ _)
  rw [List.length_drop]
  omega

theorem length_of_prefix_drop (ht : tag ≠ []) (h : tag <+: b.drop i) :
    i + tag.length ≤ b.length := by
  have hpos := List.length_pos_iff.2 ht
  have hle := h.length_le
  rw [List.length_drop] at hle
  omega

/-- The place that is found is the first one. -/
theorem find?_eq_some_iff (ht : tag ≠ []) :
    find? tag b = some i ↔ tag <+: b.drop i ∧ ∀ j, j < i → ¬ tag <+: b.drop j := by
  induction b generalizing i with
  | nil => simp [find?, ht]
  | cons x r ih =>
    by_cases hp : tag <+: x :: r
    · have hb : tag.isPrefixOf (x :: r) = true := List.isPrefixOf_iff_prefix.2 hp
      simp only [find?, hb, if_true, Option.some.injEq]
      constructor
      · rintro rfl
        exact ⟨hp, fun j hj => absurd hj (Nat.not_lt_zero j)⟩
      · rintro ⟨-, hmin⟩
        cases i with
        | zero => rfl
        | succ i => exact (hmin 0 (Nat.succ_pos i) hp).elim
    · have hb : ¬ tag.isPrefixOf (x :: r) = true := mt List.isPrefixOf_iff_prefix.1 hp
      simp only [find?, hb, Bool.false_eq_true, if_false]
      cases i with
      | zero => simp [hp]
      | succ i =>
        rw [Option.map_eq_some_iff]
        simp only [Nat.add_right_cancel_iff, exists_eq_right, ih, List.drop_succ_cons]
        refine and_congr_right fun _ => ⟨fun hmin j hj => ?_, fun hmin j hj => ?_⟩
        · cases j with
          | zero => exact hp
          | succ j => exact hmin j (Nat.lt_of_succ_lt_succ hj)
        · exact hmin (j + 1) (Nat.succ_lt_succ hj)

theorem find?_eq_none (ht : tag ≠ []) (h : ∀ j, ¬ tag <+: b.drop j) : find? tag b = none := by
  cases hf : find? tag b with
  | none => rfl
  | some i => exact (h i ((find?_eq_some_iff ht).1 hf).1).elim

theorem find?_append (ht : tag ≠ []) (h : find? tag a = some i) : find? tag (a ++ t) = some i := by
  rw [find?_eq_some_iff ht] at h ⊢
  have hlen := length_of_prefix_drop ht h.1
  refine ⟨prefix_drop_append (by omega) h.1, fun j hj hp => ?_⟩
  exact h.2 j hj (prefix_drop_of_append (by omega) hp)

theorem find?_of_append (ht : tag ≠ []) (h : find? tag (a ++ t) = some i) :
    find? tag a = if i + tag.length ≤ a.length then some i else none := by
  rw [find?_eq_some_iff ht] at h
  by_cases hi : i + tag.length ≤ a.length
  · rw [if_pos hi, find?_eq_some_iff ht]
    refine ⟨prefix_drop_of_append hi h.1, fun j hj hp => ?_⟩
    exact h.2 j hj (prefix_drop_append (by omega) hp)
  · rw [if_neg hi]
    apply find?_eq_none ht
    intro j hp
    have hlen := length_of_prefix_drop ht hp
    by_cases hj : j < i
    · exact h.2 j hj (prefix_drop_append (by omega) hp)
    · omega

end Bytes

namespace Framed

variable {describe : Json.Fault → String} {a b t h : Bytes} {c i : Nat} {m : Message}

theorem endTag_ne_nil : endTag ≠ [] := by decide

@[simp] theorem length_startTag : startTag.length = 14 := by decide
@[simp] theorem length_endTag : endTag.length = 15 := by decide

theorem agrees_iff : agrees a b = true ↔ a <+: b ∨ b <+: a := by simp [agrees]

theorem agrees_of_append (ha : agrees b (h ++ t) = true) : agrees b h = true := by
  rw [agrees_iff] at ha ⊢
  obtain ha | ha := ha
  · exact List.prefix_or_prefix_of_prefix ha (List.prefix_append h t)
  · exact Or.inr ((List.prefix_append h t).trans ha)

/-- What stands behind the blanks at the front. -/
def head (b : Bytes) : Bytes := b.dropWhile Bytes.isBlank

theorem head_append (ha : head a ≠ []) : head (a ++ t) = head a ++ t := by
  simp only [head, List.dropWhile_append] at ha ⊢
  rw [if_neg (by simpa using ha)]

theorem length_head_le (b : Bytes) : (head b).length ≤ b.length :=
  (List.dropWhile_suffix _).length_le

/-- An end tag does not stand among blanks. -/
theorem blanks_before_endTag (hp : endTag <+: b.drop i) : b.length - (head b).length ≤ i := by
  induction b generalizing i with
  | nil => simp
  | cons x r ih =>
    by_cases hx : Bytes.isBlank x = true
    · cases i with
      | zero =>
        obtain ⟨t, ht⟩ := hp
        have h60 : x = 60 := by
          have hh := congrArg List.head? ht
          exact (Option.some.inj hh).symm
        subst h60
        exact absurd hx (by decide)
      | succ i =>
        have hi := ih hp
        simp only [head, List.dropWhile_cons, hx, if_true, List.length_cons] at hi ⊢
        omega
    · simp [head, hx]

/-- Bytes that hold an end tag say whether they begin with a start tag. -/
theorem startTag_of_agrees (hp : endTag <+: b.drop i) (ha : agrees startTag (head b) = true) :
    startTag <+: head b := by
  obtain ha | ha := agrees_iff.1 ha
  · exact ha
  · have hw := blanks_before_endTag hp
    have hl := Bytes.length_of_prefix_drop endTag_ne_nil hp
    have hs := ha.length_le
    rw [length_endTag] at hl
    rw [length_startTag] at hs
    have := length_head_le b
    omega

theorem parse_missing (ha : ¬ agrees startTag (head b) = true) :
    parse describe b = .fault (.malformed "missing start tag") := by
  unfold head at ha
  simp [parse, ha]

theorem parse_unfinished (ha : agrees startTag (head b) = true)
    (hf : Bytes.find? endTag b = none) : parse describe b = .inProgress := by
  unfold head at ha
  simp [parse, ha, hf]

/-- The bytes between the tags, if the end tag stands at `stop`. -/
def between (b : Bytes) (stop : Nat) : Bytes :=
  (b.take stop).drop (b.length - (head b).length + startTag.length)

theorem parse_finished (ha : agrees startTag (head b) = true)
    (hf : Bytes.find? endTag b = some i) :
    parse describe b =
      match Message.decode (between b i) with
      | .ok m => .complete (i + endTag.length) m
      | .error f => .fault (.malformed (describe f)) := by
  cases hd : Message.decode (between b i) with
  | ok m =>
    simp only [between, head] at hd
    unfold head at ha
    simp only [parse, ha, hf, hd, if_true]
  | error f =>
    simp only [between, head] at hd
    unfold head at ha
    simp only [parse, ha, hf, hd, if_true]

theorem between_append (hi : i ≤ a.length) (ha : head a ≠ []) :
    between (a ++ t) i = between a i := by
  have hle := length_head_le a
  simp only [between, head_append ha, List.take_append_of_le_length hi, List.length_append]
  congr 2
  omega

theorem head_ne_nil_of_endTag (hp : endTag <+: b.drop i) : head b ≠ [] := by
  intro hn
  have hw := blanks_before_endTag hp
  have hl := Bytes.length_of_prefix_drop endTag_ne_nil hp
  rw [hn, List.length_nil] at hw
  rw [length_endTag] at hl
  omega

theorem parse_append_finished (ha : agrees startTag (head a) = true)
    (hf : Bytes.find? endTag a = some i) : parse describe (a ++ t) = parse describe a := by
  have hp := ((Bytes.find?_eq_some_iff endTag_ne_nil).1 hf).1
  have hne := head_ne_nil_of_endTag hp
  have hl := Bytes.length_of_prefix_drop endTag_ne_nil hp
  have ha' : agrees startTag (head (a ++ t)) = true := by
    rw [head_append hne, agrees_iff]
    exact Or.inl ((startTag_of_agrees hp ha).trans (List.prefix_append _ _))
  rw [parse_finished ha' (Bytes.find?_append endTag_ne_nil hf), parse_finished ha hf,
    between_append (by omega) hne]

/-- An answer is final. -/
theorem parse_append (h : parse describe a ≠ .inProgress) :
    parse describe (a ++ t) = parse describe a := by
  by_cases ha : agrees startTag (head a) = true
  · cases hf : Bytes.find? endTag a with
    | none => exact (h (parse_unfinished ha hf)).elim
    | some i => exact parse_append_finished ha hf
  · have hne : head a ≠ [] := by
      intro hn
      apply ha
      rw [hn, agrees_iff]
      exact Or.inr List.nil_prefix
    have ha' : ¬ agrees startTag (head (a ++ t)) = true := by
      rw [head_append hne]
      exact mt agrees_of_append ha
    rw [parse_missing ha', parse_missing ha]

theorem agrees_head_of_append (ha : agrees startTag (head (a ++ t)) = true) :
    agrees startTag (head a) = true := by
  by_cases hn : head a = []
  · rw [hn, agrees_iff]
    exact Or.inr List.nil_prefix
  · rw [head_append hn] at ha
    exact agrees_of_append ha

/-- A frame is found where its end tag stands. -/
theorem of_parse_complete (h : parse describe b = .complete c m) :
    agrees startTag (head b) = true ∧
      ∃ i, Bytes.find? endTag b = some i ∧ c = i + endTag.length := by
  by_cases ha : agrees startTag (head b) = true
  · refine ⟨ha, ?_⟩
    cases hf : Bytes.find? endTag b with
    | none =>
      rw [parse_unfinished ha hf] at h
      cases h
    | some i =>
      rw [parse_finished ha hf] at h
      cases hd : Message.decode (between b i) with
      | error f =>
        rw [hd] at h
        cases h
      | ok m' =>
        rw [hd] at h
        exact ⟨i, rfl, (ParseOutcome.complete.inj h).1.symm⟩
  · rw [parse_missing ha] at h
    cases h

theorem parse_bounds (h : parse describe b = .complete c m) : 0 < c ∧ c ≤ b.length := by
  obtain ⟨-, i, hf, rfl⟩ := of_parse_complete h
  have hp := ((Bytes.find?_eq_some_iff endTag_ne_nil).1 hf).1
  have hl := Bytes.length_of_prefix_drop endTag_ne_nil hp
  rw [length_endTag] at hl ⊢
  omega

/-- A text shows a frame from the end of the frame on, and no sooner. -/
theorem parse_of_append (h : parse describe (a ++ t) = .complete c m) :
    parse describe a = if c ≤ a.length then .complete c m else .inProgress := by
  obtain ⟨ha, i, hf, rfl⟩ := of_parse_complete h
  have ha := agrees_head_of_append ha
  have hfa := Bytes.find?_of_append endTag_ne_nil hf
  by_cases hi : i + endTag.length ≤ a.length
  · rw [if_pos hi] at hfa ⊢
    rw [← h, parse_append_finished ha hfa]
  · rw [if_neg hi] at hfa ⊢
    exact parse_unfinished ha hfa

theorem parser_lawful (describe : Json.Fault → String) :
    Parser.Lawful (parser describe) (parse describe) where
  flatten sections := rfl
  bounds := parse_bounds
  before {b c m n} h hn := by
    rw [← List.take_append_drop n b] at h
    have hlt : ¬ c ≤ (b.take n).length := by
      rw [List.length_take]
      omega
    rw [parse_of_append h, if_neg hlt]
  within {b c m n} h hn := by
    have hb := (parse_bounds h).2
    rw [← List.take_append_drop n b] at h
    have hle : c ≤ (b.take n).length := by
      rw [List.length_take]
      omega
    rw [parse_of_append h, if_pos hle]
  beyond {b c m} t h := by rw [parse_append (by rw [h]; nofun), h]
  broken {b e} t h := by rw [parse_append (by rw [h]; nofun), h]

end Framed
end SpaceGateway
