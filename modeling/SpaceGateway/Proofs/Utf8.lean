import SpaceGateway.Proofs.Reading
/-!
What is written is a text: the bytes of a written value are well-formed UTF-8, whatever the strings
in it.
-/
namespace SpaceGateway

theorem utf8_append (s t : String) : utf8 (s ++ t) = utf8 s ++ utf8 t := by
  simp [utf8]

theorem utf8_ofList (cs : List Char) :
    utf8 (String.ofList cs) = cs.flatMap String.utf8EncodeChar := by
  simp [utf8, List.utf8Encode]

namespace Json

/-- Whether bytes are those of a text. -/
def IsText (b : Bytes) : Prop := ∃ s : String, b = utf8 s

variable {b : UInt8} {s t : Bytes}

theorem isText_append (hs : IsText s) (ht : IsText t) : IsText (s ++ t) := by
  obtain ⟨s, rfl⟩ := hs
  obtain ⟨t, rfl⟩ := ht
  exact ⟨s ++ t, (utf8_append s t).symm⟩

theorem isText_char (c : Char) : IsText (String.utf8EncodeChar c) := by
  refine ⟨String.ofList [c], ?_⟩
  rw [utf8_ofList, List.flatMap_singleton]

theorem isText_byte (h : b < 128) : IsText [b] := by
  have hall : ∀ n : Fin 128, String.utf8EncodeChar (Char.ofNat n.val) = [UInt8.ofNat n.val] := by
    decide +kernel
  have hb := hall ⟨b.toNat, h⟩
  rw [UInt8.ofNat_toNat] at hb
  rw [← hb]
  exact isText_char _

theorem isText_ascii (h : ∀ b ∈ s, b < 128) : IsText s := by
  induction s with
  | nil => exact ⟨"", rfl⟩
  | cons b s ih =>
    have hrest := ih fun x hx => h x (List.mem_cons_of_mem b hx)
    exact isText_append (isText_byte (h b List.mem_cons_self)) hrest

theorem isText_cons (h : b < 128) (hs : IsText s) : IsText (b :: s) :=
  isText_append (isText_byte h) hs

theorem ascii_escapeByte (h : b < 128) : ∀ x ∈ escapeByte b, x < 128 := by
  have hall : ∀ n : Fin 128, (escapeByte (UInt8.ofNat n.val)).all (· < 128) = true := by
    decide +kernel
  have hb := hall ⟨b.toNat, h⟩
  rw [UInt8.ofNat_toNat] at hb
  intro x hx
  simpa using List.all_eq_true.1 hb x hx

theorem plain_of_high (h : ¬ b < 128) : Plain b := by
  refine ⟨?_, ?_, fun hb => h (UInt8.lt_trans hb (by decide))⟩
  · rintro rfl
    exact h (by decide)
  · rintro rfl
    exact h (by decide)

/-- Characters outside ASCII are written as they are. -/
theorem escape_high (h : ∀ x ∈ s, ¬ x < 128) : escape s = s := by
  induction s with
  | nil => rfl
  | cons b s ih =>
    rw [escape_cons, escapeByte_plain (plain_of_high (h b List.mem_cons_self)),
      ih fun x hx => h x (List.mem_cons_of_mem b hx), List.singleton_append]

theorem ascii_or_high (c : Char) : (∃ b, b < 128 ∧ String.utf8EncodeChar c = [b]) ∨
    ∀ x ∈ String.utf8EncodeChar c, ¬ x < 128 := by
  have hbyte (n : Nat) (hl : 128 ≤ n) (hu : n < 256) : ¬ UInt8.ofNat n < 128 := by
    rw [UInt8.lt_iff_toNat_lt, UInt8.toNat_ofNat', Nat.mod_eq_of_lt hu]
    exact Nat.not_lt.2 hl
  by_cases h : c.val.toNat ≤ 127
  · refine Or.inl ⟨UInt8.ofNat c.val.toNat, ?_, if_pos h⟩
    rw [UInt8.lt_iff_toNat_lt, UInt8.toNat_ofNat', Nat.mod_eq_of_lt (by omega)]
    exact Nat.lt_succ_of_le h
  · right
    simp only [String.utf8EncodeChar, h, if_false]
    split
    · simp only [List.forall_mem_cons]
      exact ⟨hbyte _ (by omega) (by omega), hbyte _ (by omega) (by omega), by simp⟩
    · split
      · simp only [List.forall_mem_cons]
        exact ⟨hbyte _ (by omega) (by omega), hbyte _ (by omega) (by omega),
          hbyte _ (by omega) (by omega), by simp⟩
      · simp only [List.forall_mem_cons]
        exact ⟨hbyte _ (by omega) (by omega), hbyte _ (by omega) (by omega),
          hbyte _ (by omega) (by omega), hbyte _ (by omega) (by omega), by simp⟩

theorem isText_escape (s : String) : IsText (escape (utf8 s)) := by
  have hs : utf8 s = s.toList.flatMap String.utf8EncodeChar := by
    rw [← utf8_ofList, String.ofList_toList]
  rw [hs]
  induction s.toList with
  | nil => exact ⟨"", rfl⟩
  | cons c cs ih =>
    have happend : escape ((c :: cs).flatMap String.utf8EncodeChar) =
        escape (String.utf8EncodeChar c) ++ escape (cs.flatMap String.utf8EncodeChar) := by
      rw [List.flatMap_cons, escape, escape, escape, List.flatMap_append]
    rw [happend]
    refine isText_append ?_ ih
    obtain ⟨b, hb, hc⟩ | hc := ascii_or_high c
    · rw [hc, escape, List.flatMap_singleton]
      exact isText_ascii (ascii_escapeByte hb)
    · rw [escape_high hc]
      exact isText_char c

theorem isText_quoted (s : String) : IsText (quoted s) :=
  isText_cons (by decide) (isText_append (isText_escape s) (isText_byte (by decide)))

theorem isText_decimal (n : Nat) : IsText (decimal n) := by
  refine isText_ascii fun b hb => ?_
  have hd : 48 ≤ b ∧ b ≤ 57 := by
    simpa [isDigit] using (decimal_spells n).digits.digits b hb
  have h57 : b.toNat ≤ 57 := hd.2
  have h128 : (128 : UInt8).toNat = 128 := rfl
  rw [UInt8.lt_iff_toNat_lt]
  omega

mutual
theorem isText_render : ∀ v : Json, IsText (render v)
  | .null => ⟨_, rfl⟩
  | .bool _ => ⟨_, rfl⟩
  | .number n => isText_decimal n
  | .string s => isText_quoted s
  | .array items =>
    isText_cons (by decide) (isText_append (isText_renderItems items) (isText_byte (by decide)))
  | .object members =>
    isText_cons (by decide)
      (isText_append (isText_renderMembers members) (isText_byte (by decide)))

theorem isText_renderItems : ∀ items : List Json, IsText (renderItems items)
  | [] => ⟨"", rfl⟩
  | [v] => isText_render v
  | v :: w :: rest => by
    rw [renderItems_cons]
    exact isText_append (isText_render v)
      (isText_cons (by decide) (isText_renderItems (w :: rest)))

theorem isText_renderMembers : ∀ members : List (String × Json), IsText (renderMembers members)
  | [] => ⟨"", rfl⟩
  | [(key, v)] => isText_append (isText_quoted key) (isText_cons (by decide) (isText_render v))
  | (key, v) :: m :: rest => by
    rw [renderMembers_cons]
    exact isText_append (isText_quoted key) (isText_cons (by decide) (isText_append
      (isText_render v) (isText_cons (by decide) (isText_renderMembers (m :: rest)))))
end

/-- The text of a value has just the bytes that are written for it. -/
theorem utf8_toText (v : Json) : utf8 v.toText = v.render := by
  obtain ⟨s, hs⟩ := isText_render v
  rw [toText, hs, text?_utf8, Option.getD_some]

end Json
end SpaceGateway
