import SpaceGateway.Json.Write
/-!
String literals by the grammar of JSON. A literal is read to its closing quote and no further, and
a text that is written as a literal is read back as it was.
-/
namespace SpaceGateway.Json

variable {b c w x y z : UInt8} {done r s : Bytes} {n : Nat}

/-- A byte that stands for itself in a literal. -/
def Plain (b : UInt8) : Prop := b ≠ 34 ∧ b ≠ 92 ∧ ¬ b < 32

instance : Decidable (Plain b) := inferInstanceAs (Decidable (_ ∧ _ ∧ _))

/-- What may stand between the quotes of a literal. The units of a surrogate pair need not come
together here; that is a matter of what the literal says. -/
inductive Inside : Bytes → Prop
  | nil : Inside []
  | plain {b : UInt8} {s : Bytes} : Plain b → Inside s → Inside (b :: s)
  | letter {c : UInt8} {s : Bytes} :
      (unescapeLetter? c).isSome → Inside s → Inside (92 :: c :: s)
  | unit {w x y z : UInt8} {s : Bytes} :
      (unit? w x y z).isSome → Inside s → Inside (92 :: 117 :: w :: x :: y :: z :: s)

theorem ne_unit_of_letter (h : (unescapeLetter? c).isSome) : c ≠ 117 := by
  rintro rfl
  exact absurd h (by decide)

/-- The end of a literal is found. -/
theorem skipQuoted_inside (h : Inside s) : skipQuoted (s ++ 34 :: r) = .ok r := by
  induction h with
  | nil => rw [List.nil_append, skipQuoted]
  | plain hb _ ih =>
    obtain ⟨h34, h92, h32⟩ := hb
    rw [List.cons_append, skipQuoted, if_neg h32, ih] <;> simp_all
  | letter hc _ ih =>
    have hne := ne_unit_of_letter hc
    rw [List.cons_append, List.cons_append, skipQuoted, if_neg hne, if_pos hc, ih]
    simp_all
  | unit hu _ ih =>
    simp only [List.cons_append]
    rw [skipQuoted, if_pos hu, ih]

theorem unescape_quote : unescape done (34 :: r) = .ok (done.reverse, r) := by
  rw [unescape]

theorem unescape_plain (h : Plain b) : unescape done (b :: r) = unescape (b :: done) r := by
  obtain ⟨h34, h92, h32⟩ := h
  rw [unescape, if_neg h32] <;> simp_all

theorem unescape_letter (h : unescapeLetter? c = some b) :
    unescape done (92 :: c :: r) = unescape (b :: done) r := by
  have hc := @ne_unit_of_letter c (by simp [h])
  rw [unescape, if_neg hc, h]
  simp_all

/-- What is read behind the high surrogate `n`. -/
def unescapePair (n : Nat) (done : Bytes) : Bytes → Except SyntaxFault (Bytes × Bytes)
  | 92 :: 117 :: w :: x :: y :: z :: r =>
    match unit? w x y z with
    | none => .error .badEscape
    | some m =>
      if isLowSurrogate m then
        unescape (encodeReversed ((n - 0xD800) * 0x400 + (m - 0xDC00) + 0x10000) ++ done) r
      else .error .loneSurrogate
  | r => .error (missingPair r)

theorem unescape_unit (hn : unit? w x y z = some n) :
    unescape done (92 :: 117 :: w :: x :: y :: z :: r) =
      if isLowSurrogate n then .error .loneSurrogate
      else if isHighSurrogate n then unescapePair n done r
      else unescape (encodeReversed n ++ done) r := by
  rw [unescape, hn]
  rfl

/-- Only another unit completes a pair. -/
theorem unescapePair_plain (h : Plain b) :
    unescapePair n done (b :: r) = .error .halfSurrogatePair := by
  obtain ⟨-, h92, -⟩ := h
  rw [unescapePair, missingPair] <;> simp_all

theorem unescapePair_letter (h : (unescapeLetter? c).isSome) :
    unescapePair n done (92 :: c :: r) = .error .halfSurrogatePair := by
  have hc := ne_unit_of_letter h
  rw [unescapePair, missingPair] <;> simp_all

/-- Whether reading, however far it has come, ends with the quote behind these bytes. -/
def Closes (read : Bytes → Bytes → Except SyntaxFault (Bytes × Bytes)) (s : Bytes) : Prop :=
  ∀ done r, read done (s ++ 34 :: r) = (read done (s ++ [34])).map fun p => (p.1, r)

theorem closes_inside (h : Inside s) : Closes unescape s ∧ ∀ n, Closes (unescapePair n) s := by
  induction h with
  | nil =>
    refine ⟨fun done r => ?_, fun n done r => rfl⟩
    simp only [List.nil_append, unescape_quote, Except.map]
  | @plain b s hb _ ih =>
    refine ⟨fun done r => ?_, fun n done r => ?_⟩
    · simp only [List.cons_append, unescape_plain hb]
      exact ih.1 _ r
    · simp only [List.cons_append, unescapePair_plain hb]
      rfl
  | @letter c s hc _ ih =>
    obtain ⟨b, hb⟩ := Option.isSome_iff_exists.1 hc
    refine ⟨fun done r => ?_, fun n done r => ?_⟩
    · simp only [List.cons_append, unescape_letter hb]
      exact ih.1 _ r
    · simp only [List.cons_append, unescapePair_letter hc]
      rfl
  | @unit w x y z s hu _ ih =>
    obtain ⟨m, hm⟩ := Option.isSome_iff_exists.1 hu
    refine ⟨fun done r => ?_, fun n done r => ?_⟩
    · simp only [List.cons_append, unescape_unit hm]
      split
      · rfl
      · split
        · exact ih.2 m done r
        · exact ih.1 _ r
    · simp only [List.cons_append, unescapePair, hm]
      split
      · exact ih.1 _ r
      · rfl

/-- Nothing behind the closing quote matters to what a literal says. -/
theorem readQuoted_inside (h : Inside s) : readQuoted (s ++ 34 :: r) = readQuoted (s ++ [34]) := by
  rw [readQuoted, readQuoted, (closes_inside h).1]
  cases unescape [] (s ++ [34]) <;> rfl

theorem escapeByte_plain (h : Plain b) : escapeByte b = [b] := by
  obtain ⟨h34, h92, h32⟩ := h
  have h8 : b ≠ 8 := by rintro rfl; exact h32 (by decide)
  have h9 : b ≠ 9 := by rintro rfl; exact h32 (by decide)
  have h10 : b ≠ 10 := by rintro rfl; exact h32 (by decide)
  have h12 : b ≠ 12 := by rintro rfl; exact h32 (by decide)
  have h13 : b ≠ 13 := by rintro rfl; exact h32 (by decide)
  simp [escapeByte, h34, h92, h32, h8, h9, h10, h12, h13]

theorem unit?_hexDigit (h : b < 32) :
    unit? 48 48 (hexDigit (b.toNat / 16)) (hexDigit (b.toNat % 16)) = some b.toNat := by
  have hall : ∀ n : Fin 32,
      unit? 48 48 (hexDigit (n.val / 16)) (hexDigit (n.val % 16)) = some n.val := by decide
  exact hall ⟨b.toNat, h⟩

theorem encodeReversed_control (h : b < 32) : encodeReversed b.toNat = [b] := by
  have hall : ∀ n : Fin 32, encodeReversed n.val = [UInt8.ofNat n.val] := by decide +kernel
  have hb := hall ⟨b.toNat, h⟩
  rwa [UInt8.ofNat_toNat] at hb

/-- How a byte that is not plain is written: by one letter, or by its number. -/
inductive Written (b : UInt8) : Bytes → Prop
  | letter {c : UInt8} : unescapeLetter? c = some b → Written b [92, c]
  | unit {y z : UInt8} : b < 32 → unit? 48 48 y z = some b.toNat → Written b [92, 117, 48, 48, y, z]

theorem written_escapeByte (h : ¬ Plain b) : Written b (escapeByte b) := by
  by_cases h34 : b = 34
  · subst h34; exact .letter rfl
  by_cases h92 : b = 92
  · subst h92; exact .letter rfl
  by_cases h8 : b = 8
  · subst h8; exact .letter rfl
  by_cases h12 : b = 12
  · subst h12; exact .letter rfl
  by_cases h10 : b = 10
  · subst h10; exact .letter rfl
  by_cases h13 : b = 13
  · subst h13; exact .letter rfl
  by_cases h9 : b = 9
  · subst h9; exact .letter rfl
  have h32 : b < 32 := by
    apply Decidable.byContradiction
    intro h32
    exact h ⟨h34, h92, h32⟩
  simp only [escapeByte, h34, h92, h8, h12, h10, h13, h9, h32, if_true, if_false]
  exact .unit h32 (unit?_hexDigit h32)

theorem Written.inside (h : Written b r) (hs : Inside s) : Inside (r ++ s) := by
  cases h with
  | letter hb => exact .letter (by simp [hb]) hs
  | unit h32 hn => exact .unit (by simp [hn]) hs

theorem Written.unescape (h : Written b s) : unescape done (s ++ r) = unescape (b :: done) r := by
  cases h with
  | letter hb => exact unescape_letter hb
  | unit h32 hn =>
    have hlow : isLowSurrogate b.toNat = false := by
      have : b.toNat < 32 := h32
      simp [isLowSurrogate]
      omega
    have hhigh : isHighSurrogate b.toNat = false := by
      have : b.toNat < 32 := h32
      simp [isHighSurrogate]
      omega
    have hunit := @unescape_unit 48 48 _ _ done r _ hn
    rw [hlow, hhigh, encodeReversed_control h32] at hunit
    exact hunit

theorem escape_cons : escape (b :: s) = escapeByte b ++ escape s := List.flatMap_cons

theorem inside_escape (s : Bytes) : Inside (escape s) := by
  induction s with
  | nil => exact .nil
  | cons b s ih =>
    rw [escape_cons]
    by_cases hp : Plain b
    · rw [escapeByte_plain hp]
      exact .plain hp ih
    · exact (written_escapeByte hp).inside ih

theorem unescape_escape (done s r : Bytes) :
    unescape done (escape s ++ 34 :: r) = .ok (done.reverse ++ s, r) := by
  induction s generalizing done with
  | nil => rw [escape, List.flatMap_nil, List.nil_append, unescape_quote, List.append_nil]
  | cons b s ih =>
    rw [escape_cons, List.append_assoc]
    by_cases hp : Plain b
    · rw [escapeByte_plain hp, List.singleton_append, unescape_plain hp, ih]
      simp
    · rw [(written_escapeByte hp).unescape, ih]
      simp

theorem readQuoted_escape (t : String) (r : Bytes) :
    readQuoted (escape (utf8 t) ++ 34 :: r) = .ok t := by
  simp [readQuoted, unescape_escape, text?_utf8, bind, Except.bind]

end SpaceGateway.Json
