import SpaceGateway.Json.Write
/-!
Numbers by the grammar of JSON. A number is read up to what follows it, and a number that is written
in decimal digits is read back as it was, if it fits 64 bits.
-/
namespace SpaceGateway.Json

variable {n fuel : Nat} {done r s t ds : Bytes}

/-- The blanks, the separator and the brackets that close. -/
def followers : Bytes := [32, 10, 9, 13, 44, 93, 125]

/-- What may stand behind a value: the end of the text, a blank, a separator or a closing
bracket. -/
def Follows (r : Bytes) : Prop := ∀ c t, r = c :: t → c ∈ followers

/-- A run of digits. -/
structure Digits (ds : Bytes) : Prop where
  digits : ∀ b ∈ ds, isDigit b = true
  ne_nil : ds ≠ []

/-- The digits after a point, with the point. -/
inductive Fraction : Bytes → List Nat → Prop
  | none : Fraction [] []
  | some {ds : Bytes} : Digits ds → Fraction (46 :: ds) (ds.map digit)

/-- The sign of an exponent, and whether it is negative. -/
inductive Sign : Bytes → Bool → Prop
  | none : Sign [] false
  | plus : Sign [43] false
  | minus : Sign [45] true

/-- An exponent with its letter. -/
inductive Exponent : Bytes → Option (Bool × List Nat) → Prop
  | none : Exponent [] none
  | some {e : UInt8} {s ds : Bytes} {negative : Bool} : e = 101 ∨ e = 69 → Sign s negative →
      Digits ds → Exponent (e :: (s ++ ds)) (some (negative, ds.map digit))

/-- A text that spells a number. A zero before the point stands alone. -/
inductive Numeral : Bytes → Spelling → Prop
  | mk {s t ds : Bytes} {fraction : List Nat} {exponent : Option (Bool × List Nat)} (minus : Bool) :
      Digits ds → ((ds.map digit).head? = some 0 → ds.length = 1) → Fraction s fraction →
      Exponent t exponent →
      Numeral ((if minus then [45] else []) ++ (ds ++ (s ++ t)))
        ⟨minus, ds.map digit, fraction, exponent⟩

/-- The digits of a run end where something else begins. -/
theorem digits_append (hds : Digits ds) (hr : ∀ c t, r = c :: t → isDigit c = false) :
    Json.digits (ds ++ r) = (ds.map digit, r) := by
  have hstop : r.takeWhile isDigit = [] ∧ r.dropWhile isDigit = r := by
    cases r with
    | nil => exact ⟨rfl, rfl⟩
    | cons c t => simp [hr c t rfl]
  rw [Json.digits, List.takeWhile_append_of_pos hds.digits, List.dropWhile_append_of_pos hds.digits,
    hstop.1, hstop.2, List.append_nil]

theorem Follows.all {p : UInt8 → Bool} (h : followers.all p = true) (hr : Follows r) :
    ∀ c t, r = c :: t → p c = true :=
  fun c t hc => List.all_eq_true.1 h c (hr c t hc)

theorem exists_digit (hds : Digits ds) : ∃ x xs, ds = x :: xs ∧ isDigit x = true := by
  obtain ⟨x, xs, rfl⟩ := List.exists_cons_of_ne_nil hds.ne_nil
  exact ⟨x, xs, rfl, hds.digits x List.mem_cons_self⟩

variable {minus : Bool} {whole fraction : List Nat}

theorem scanExponent_digits {sign : Bytes} {negative : Bool} (hs : Sign sign negative)
    (hds : Digits ds) (hr : Follows r) :
    scanExponent minus whole fraction (sign ++ (ds ++ r)) =
      .spelled ⟨minus, whole, fraction, some (negative, ds.map digit)⟩ r := by
  have hd := digits_append hds fun c t hc => by
    simpa using hr.all (p := fun c => !isDigit c) rfl c t hc
  obtain ⟨x, xs, rfl, hx⟩ := exists_digit hds
  simp only [List.cons_append, List.map_cons] at hd
  cases hs with
  | none =>
    have h43 : x ≠ 43 := by rintro rfl; exact absurd hx (by decide)
    have h45 : x ≠ 45 := by rintro rfl; exact absurd hx (by decide)
    rw [scanExponent]
    · simp [hd]
    · simpa using h43
    · simpa using h45
  | plus => simp [scanExponent, hd]
  | minus => simp [scanExponent, hd]

theorem scanTail_exponent {exponent : Option (Bool × List Nat)} (ht : Exponent t exponent)
    (hr : Follows r) :
    scanTail minus whole fraction (t ++ r) = .spelled ⟨minus, whole, fraction, exponent⟩ r := by
  cases ht with
  | none =>
    have hletter := hr.all (p := fun c => c != 101 && c != 69) rfl
    rw [List.nil_append, scanTail]
    · rintro r rfl
      exact absurd (hletter _ _ rfl) (by decide)
    · rintro r rfl
      exact absurd (hletter _ _ rfl) (by decide)
  | some he hs hds =>
    rw [List.cons_append, List.append_assoc]
    obtain rfl | rfl := he
    · exact scanExponent_digits hs hds hr
    · exact scanExponent_digits hs hds hr

/-- Neither an exponent nor what follows a value begins with a digit or a point. -/
theorem exponent_begins {exponent : Option (Bool × List Nat)} (ht : Exponent t exponent)
    (hr : Follows r) : ∀ c u, t ++ r = c :: u → isDigit c = false ∧ c ≠ 46 := by
  intro c u h
  cases ht with
  | none =>
    simpa using hr.all (p := fun c => !isDigit c && c != 46) rfl c u h
  | some he hs hds =>
    obtain ⟨rfl, -⟩ := List.cons.inj h
    obtain rfl | rfl := he
    · exact ⟨by decide, by decide⟩
    · exact ⟨by decide, by decide⟩

theorem scanUnsigned_digits {exponent : Option (Bool × List Nat)} (hds : Digits ds)
    (hz : (ds.map digit).head? = some 0 → ds.length = 1) (hs : Fraction s fraction)
    (ht : Exponent t exponent) (hr : Follows r) :
    scanUnsigned minus (ds ++ (s ++ (t ++ r))) =
      .spelled ⟨minus, ds.map digit, fraction, exponent⟩ r := by
  have hlead : ¬ ((ds.map digit).head? = some 0 && (ds.map digit).length ≠ 1) = true := by
    simpa using hz
  have hbegins := exponent_begins ht hr
  cases hs with
  | none =>
    have hd := digits_append hds fun c u h => (hbegins c u h).1
    obtain ⟨x, xs, rfl, -⟩ := exists_digit hds
    simp only [List.map_cons] at hd hlead ⊢
    rw [List.nil_append, scanUnsigned, hd]
    simp only [hlead, Bool.false_eq_true, if_false]
    split
    · next r' h => exact absurd rfl (hbegins _ _ h).2
    · exact scanTail_exponent ht hr
  | @some fs hfs =>
    have hd := @digits_append (46 :: (fs ++ (t ++ r))) ds hds (by
      rintro c u ⟨⟩
      decide)
    have hfd := digits_append hfs fun c u h => (hbegins c u h).1
    obtain ⟨x, xs, rfl, -⟩ := exists_digit hds
    obtain ⟨y, ys, rfl, -⟩ := exists_digit hfs
    simp only [List.cons_append, List.map_cons] at hd hlead hfd ⊢
    rw [scanUnsigned, hd]
    simp only [hlead, hfd, Bool.false_eq_true, if_false]
    exact scanTail_exponent ht hr

/-- A number is read up to what follows it. -/
theorem scanNumber_numeral {w : Bytes} {spelling : Spelling} (h : Numeral w spelling)
    (hr : Follows r) : scanNumber (w ++ r) = .spelled spelling r := by
  cases h with
  | @mk s t ds fraction exponent minus hds hz hs ht =>
    have hscan (minus : Bool) :=
      @scanUnsigned_digits r s t ds minus fraction exponent hds hz hs ht hr
    cases minus with
    | true => simpa [scanNumber] using hscan true
    | false =>
      obtain ⟨x, xs, rfl, hx⟩ := exists_digit hds
      have h45 : x ≠ 45 := by rintro rfl; exact absurd hx (by decide)
      have hscan := hscan false
      simp only [List.cons_append, List.append_assoc, List.nil_append, Bool.false_eq_true,
        if_false] at hscan ⊢
      rw [scanNumber, hscan]
      rintro r ⟨⟩
      exact h45 rfl

/-- Digits that spell a number, without a zero in front of others. -/
structure Spells (ds : Bytes) (n : Nat) : Prop where
  digits : Digits ds
  zero : (ds.map digit).head? = some 0 → n = 0
  short : n < 10 → ds.length = 1
  value : n < Nat.pow 2 64 → Spelling.absorb 0 (ds.map digit) = (n, [])

theorem isDigit_ofNat (h : n < 10) : isDigit (48 + n).toUInt8 = true := by
  have hall : ∀ n : Fin 10, isDigit (48 + n.val).toUInt8 = true := by decide
  exact hall ⟨n, h⟩

theorem digit_ofNat (h : n < 10) : digit (48 + n).toUInt8 = n := by
  have hall : ∀ n : Fin 10, digit (48 + n.val).toUInt8 = n.val := by decide
  exact hall ⟨n, h⟩

theorem absorb_append {k m d : Nat} {xs : List Nat} (h : Spelling.absorb k xs = (m, []))
    (hd : m * 10 + d < Nat.pow 2 64) : Spelling.absorb k (xs ++ [d]) = (m * 10 + d, []) := by
  induction xs generalizing k with
  | nil =>
    obtain rfl : k = m := by simpa [Spelling.absorb] using h
    rw [List.nil_append, Spelling.absorb, if_pos hd, Spelling.absorb]
  | cons x xs ih =>
    rw [Spelling.absorb] at h
    rw [List.cons_append, Spelling.absorb]
    by_cases hx : k * 10 + x < Nat.pow 2 64
    · rw [if_pos hx] at h ⊢
      exact ih h
    · rw [if_neg hx] at h
      simp at h

theorem spells_digit (h : n < 10) : Spells [(48 + n).toUInt8] n where
  digits := ⟨by simpa using isDigit_ofNat h, List.cons_ne_nil _ _⟩
  zero hz := by
    rw [List.map_singleton, digit_ofNat h] at hz
    exact Option.some.inj hz
  short _ := rfl
  value hn := by
    have hd : 0 * 10 + n < Nat.pow 2 64 := by omega
    rw [List.map_singleton, digit_ofNat h, Spelling.absorb, if_pos hd, Spelling.absorb, Nat.zero_mul,
      Nat.zero_add]

theorem spells_append (h : Spells ds (n / 10)) (hn : 10 ≤ n) :
    Spells (ds ++ [(48 + n % 10).toUInt8]) n where
  digits := by
    refine ⟨fun b hb => ?_, by simp⟩
    obtain hb | hb := List.mem_append.1 hb
    · exact h.digits.digits b hb
    · rw [List.mem_singleton.1 hb]
      exact isDigit_ofNat (Nat.mod_lt n (by decide))
  zero hz := by
    obtain ⟨x, xs, rfl⟩ := List.exists_cons_of_ne_nil h.digits.ne_nil
    have := h.zero (by simpa using hz)
    omega
  short hlt := by omega
  value hlt := by
    have hdiv : n / 10 * 10 + n % 10 = n := Nat.div_add_mod' n 10
    have hv := absorb_append (h.value (by omega)) (d := n % 10) (by rwa [hdiv])
    rw [List.map_append, List.map_singleton, digit_ofNat (Nat.mod_lt n (by decide)), hv, hdiv]

theorem decimalOnto_spells (h : n < fuel) :
    ∃ ds, decimalOnto fuel n done = ds ++ done ∧ Spells ds n := by
  induction fuel generalizing n done with
  | zero => omega
  | succ fuel ih =>
    by_cases hn : n < 10
    · refine ⟨[(48 + n).toUInt8], ?_, spells_digit hn⟩
      rw [decimalOnto, if_pos hn, Nat.mod_eq_of_lt hn, List.singleton_append]
    · have hlt : n / 10 < fuel := by omega
      obtain ⟨ds, hds, hs⟩ := @ih (n / 10) ((48 + n % 10).toUInt8 :: done) hlt
      refine ⟨ds ++ [(48 + n % 10).toUInt8], ?_, spells_append hs (by omega)⟩
      rw [decimalOnto, if_neg hn, hds, List.append_assoc, List.singleton_append]

theorem decimal_spells (n : Nat) : Spells (decimal n) n := by
  obtain ⟨ds, hds, hs⟩ := @decimalOnto_spells n (n + 1) [] (Nat.lt_succ_self n)
  rw [List.append_nil] at hds
  rwa [decimal, hds]

theorem numeral_decimal (n : Nat) :
    Numeral (decimal n) ⟨false, (decimal n).map digit, [], none⟩ := by
  have h := decimal_spells n
  have hz : ((decimal n).map digit).head? = some 0 → (decimal n).length = 1 := by
    intro hz
    exact h.short (by rw [h.zero hz]; decide)
  simpa using Numeral.mk false h.digits hz .none .none

theorem value_decimal (hn : n < Nat.pow 2 64) :
    Spelling.value ⟨false, (decimal n).map digit, [], none⟩ = .ok (.natural n) := by
  simp [Spelling.value, (decimal_spells n).value hn]

end SpaceGateway.Json
