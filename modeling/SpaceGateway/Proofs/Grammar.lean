import SpaceGateway.Json.Decode
import SpaceGateway.Proofs.Literals
import SpaceGateway.Proofs.Numerals
/-!
The texts that spell JSON values, by the grammar of JSON, each with what is read from it. Blanks may
stand between any two tokens. A text of the grammar is read part by part, and what stands behind it
is left.
-/
namespace SpaceGateway.Json

/-- Blanks between two tokens, or none. -/
def Blank (g : Bytes) : Prop := ∀ b ∈ g, isSpace b = true

mutual
/-- A text that spells a value, from its first token to its last. -/
inductive Spelt : Bytes → Node → Prop
  | null : Spelt (utf8 "null") .null
  | yes : Spelt (utf8 "true") (.bool true)
  | no : Spelt (utf8 "false") (.bool false)
  | number {s : Bytes} {spelling : Spelling} :
      Numeral s spelling → Spelt s (.number spelling.value)
  | string {s : Bytes} : Inside s → Spelt (34 :: (s ++ [34])) (.string (readQuoted (s ++ [34])))
  | emptyArray {g : Bytes} : Blank g → Spelt (91 :: (g ++ [93])) (.array .close)
  | array {s : Bytes} {items : Items} : SpeltItems s items → Spelt (91 :: s) (.array items)
  | emptyObject {g : Bytes} : Blank g → Spelt (123 :: (g ++ [125])) (.object .close)
  | object {s : Bytes} {members : Members} :
      SpeltMembers s members → Spelt (123 :: s) (.object members)

/-- The items of an array and the bracket behind them. -/
inductive SpeltItems : Bytes → Items → Prop
  | last {before after s : Bytes} {n : Node} : Blank before → Spelt s n → Blank after →
      SpeltItems (before ++ (s ++ (after ++ [93]))) (.item n .close)
  | more {before after s t : Bytes} {n : Node} {items : Items} : Blank before → Spelt s n →
      Blank after → SpeltItems t items →
      SpeltItems (before ++ (s ++ (after ++ 44 :: t))) (.item n items)

/-- The members of an object and the brace behind them. -/
inductive SpeltMembers : Bytes → Members → Prop
  | last {before between front after key s : Bytes} {n : Node} : Blank before → Inside key →
      Blank between → Blank front → Spelt s n → Blank after →
      SpeltMembers
        (before ++ 34 :: (key ++ 34 :: (between ++ 58 :: (front ++ (s ++ (after ++ [125]))))))
        (.member (readQuoted (key ++ [34])) n .close)
  | more {before between front after key s t : Bytes} {n : Node} {members : Members} :
      Blank before → Inside key → Blank between → Blank front → Spelt s n → Blank after →
      SpeltMembers t members →
      SpeltMembers
        (before ++ 34 :: (key ++ 34 :: (between ++ 58 :: (front ++ (s ++ (after ++ 44 :: t))))))
        (.member (readQuoted (key ++ [34])) n members)
end

variable {x : UInt8} {fuel : Nat} {g r s t u : Bytes} {n : Node} {items : Items}
  {members : Members}

theorem blank_nil : Blank [] := by simp [Blank]

theorem skipSpace_cons (h : isSpace x = false) : skipSpace (x :: t) = x :: t := by
  simp [skipSpace, h]

theorem skipSpace_blank (h : Blank g) : skipSpace (g ++ s) = skipSpace s :=
  List.dropWhile_append_of_pos h

theorem scanNode_blank (h : Blank g) : scanNode fuel (g ++ s) = scanNode fuel s := by
  cases fuel with
  | zero => rfl
  | succ fuel => rw [scanNode, scanNode, skipSpace_blank h]

theorem skipSpace_skipSpace : skipSpace (skipSpace s) = skipSpace s := by
  induction s with
  | nil => rfl
  | cons b s ih =>
    cases hb : isSpace b with
    | true => rwa [show skipSpace (b :: s) = skipSpace s by simp [skipSpace, hb]]
    | false => rw [skipSpace_cons hb, skipSpace_cons hb]

theorem scanItem_skipSpace : scanItem fuel (skipSpace s) = scanItem fuel s := by
  cases fuel with
  | zero => rfl
  | succ fuel =>
    have hnode : scanNode fuel (skipSpace s) = scanNode fuel s := by
      cases fuel with
      | zero => rfl
      | succ fuel => rw [scanNode, scanNode, skipSpace_skipSpace]
    rw [scanItem, scanItem, hnode]

theorem Follows.of_mem (h : followers.contains x = true) : Follows (x :: t) := by
  intro c u hc
  obtain ⟨rfl, -⟩ := List.cons.inj hc
  exact List.contains_iff_mem.1 h

theorem Blank.follows (h : Blank g) (hr : Follows r) : Follows (g ++ r) := by
  cases g with
  | nil => exact hr
  | cons b g =>
    have hb : isSpace b = true := h b List.mem_cons_self
    simp only [isSpace, Bool.or_eq_true, beq_iff_eq] at hb
    obtain ((rfl | rfl) | rfl) | rfl := hb
    · exact .of_mem rfl
    · exact .of_mem rfl
    · exact .of_mem rfl
    · exact .of_mem rfl

theorem scanWord_append (w : Bytes) : scanWord w (w ++ r) = .ok r := by
  induction w with
  | nil => rfl
  | cons c w ih => simpa [scanWord] using ih

theorem scanNode_scalar (hs : isSpace x = false) (ha : x ≠ 91) (ho : x ≠ 123) :
    scanNode (fuel + 1) (x :: t) = scanScalar x t := by
  rw [scanNode, skipSpace_cons hs]
  split
  · next h => cases h
  · next h => exact (ha (List.cons.inj h).1).elim
  · next h => exact (ho (List.cons.inj h).1).elim
  · next h =>
    obtain ⟨rfl, rfl⟩ := List.cons.inj h
    rfl

theorem scanNode_close (hg : Blank g) :
    scanNode (fuel + 1) (91 :: (g ++ 93 :: r)) = (.array .close, r) := by
  have h91 : skipSpace (91 :: (g ++ 93 :: r)) = 91 :: (g ++ 93 :: r) := skipSpace_cons (by decide)
  have h93 : skipSpace (g ++ 93 :: r) = 93 :: r :=
    (skipSpace_blank hg).trans (skipSpace_cons (by decide))
  simp only [scanNode, h91, h93]

theorem scanNode_array (ht : skipSpace t = x :: u) (hx : x ≠ 93) :
    scanNode (fuel + 1) (91 :: t) = (.array (scanItem fuel t).1, (scanItem fuel t).2) := by
  have h91 : skipSpace (91 :: t) = 91 :: t := skipSpace_cons (by decide)
  rw [← @scanItem_skipSpace fuel t]
  simp only [scanNode, h91, ht]
  split
  · next h => cases h
  · next h => exact (hx (List.cons.inj h).1).elim
  · rfl

theorem scanNode_closeObject (hg : Blank g) :
    scanNode (fuel + 1) (123 :: (g ++ 125 :: r)) = (.object .close, r) := by
  have h123 : skipSpace (123 :: (g ++ 125 :: r)) = 123 :: (g ++ 125 :: r) :=
    skipSpace_cons (by decide)
  have h125 : skipSpace (g ++ 125 :: r) = 125 :: r :=
    (skipSpace_blank hg).trans (skipSpace_cons (by decide))
  simp only [scanNode, h123, h125]

theorem scanNode_object (ht : skipSpace t = 34 :: u) :
    scanNode (fuel + 1) (123 :: t) =
      (.object (scanMember fuel (34 :: u)).1, (scanMember fuel (34 :: u)).2) := by
  have h123 : skipSpace (123 :: t) = 123 :: t := skipSpace_cons (by decide)
  simp only [scanNode, h123, ht]
  rfl

theorem scanItem_last (h : scanNode fuel s = (n, g ++ 93 :: r)) (hg : Blank g) :
    scanItem (fuel + 1) s = (.item n .close, r) := by
  have h93 : skipSpace (g ++ 93 :: r) = 93 :: r :=
    (skipSpace_blank hg).trans (skipSpace_cons (by decide))
  simp only [scanItem, h, h93]

theorem scanItem_more (h : scanNode fuel s = (n, g ++ 44 :: t)) (hg : Blank g)
    (ht : skipSpace t = x :: u) (hx : x ≠ 93) :
    scanItem (fuel + 1) s = (.item n (scanItem fuel t).1, (scanItem fuel t).2) := by
  have h44 : skipSpace (g ++ 44 :: t) = 44 :: t :=
    (skipSpace_blank hg).trans (skipSpace_cons (by decide))
  rw [← @scanItem_skipSpace fuel t]
  simp only [scanItem, h, h44, ht]
  split
  · next h => exact (hx (List.cons.inj h).1).elim
  · rfl

variable {between key : Bytes}

theorem scanMember_last (hkey : Inside key) (hb : Blank between)
    (h : scanNode fuel s = (n, g ++ 125 :: r)) (hg : Blank g) :
    scanMember (fuel + 1) (34 :: (key ++ 34 :: (between ++ 58 :: s))) =
      (.member (readQuoted (key ++ [34])) n .close, r) := by
  have h58 : skipSpace (between ++ 58 :: s) = 58 :: s :=
    (skipSpace_blank hb).trans (skipSpace_cons (by decide))
  have h125 : skipSpace (g ++ 125 :: r) = 125 :: r :=
    (skipSpace_blank hg).trans (skipSpace_cons (by decide))
  simp only [scanMember, skipQuoted_inside hkey, readQuoted_inside hkey, h58, h, h125]

theorem scanMember_more (hkey : Inside key) (hb : Blank between)
    (h : scanNode fuel s = (n, g ++ 44 :: t)) (hg : Blank g) (ht : skipSpace t = 34 :: u) :
    scanMember (fuel + 1) (34 :: (key ++ 34 :: (between ++ 58 :: s))) =
      (.member (readQuoted (key ++ [34])) n (scanMember fuel (34 :: u)).1,
        (scanMember fuel (34 :: u)).2) := by
  have h58 : skipSpace (between ++ 58 :: s) = 58 :: s :=
    (skipSpace_blank hb).trans (skipSpace_cons (by decide))
  have h44 : skipSpace (g ++ 44 :: t) = 44 :: t :=
    (skipSpace_blank hg).trans (skipSpace_cons (by decide))
  simp only [scanMember, skipQuoted_inside hkey, readQuoted_inside hkey, h58, h, h44, ht]
  rfl

/-- Whether a byte begins a number. -/
def startsNumber (b : UInt8) : Bool := b = 45 || isDigit b

theorem ne_of_startsNumber {y : UInt8} (hx : startsNumber x = true)
    (hy : startsNumber y = false) : x ≠ y := by
  rintro rfl
  rw [hx] at hy
  cases hy

theorem not_space_of_startsNumber (hx : startsNumber x = true) : isSpace x = false := by
  simp only [isSpace, Bool.or_eq_false_iff, beq_eq_false_iff_ne]
  exact ⟨⟨⟨ne_of_startsNumber hx (by decide), ne_of_startsNumber hx (by decide)⟩,
    ne_of_startsNumber hx (by decide)⟩, ne_of_startsNumber hx (by decide)⟩

theorem Numeral.begins {spelling : Spelling} (h : Numeral s spelling) :
    ∃ x t, s = x :: t ∧ startsNumber x = true := by
  cases h with
  | mk minus hds hz hs ht =>
    obtain ⟨x, xs, rfl, hx⟩ := exists_digit hds
    cases minus with
    | true => exact ⟨45, _, rfl, by decide⟩
    | false => exact ⟨x, _, rfl, by simp [startsNumber, hx]⟩

/-- No value begins with a blank or a bracket that closes. -/
theorem Spelt.begins (h : Spelt s n) : ∃ x t, s = x :: t ∧ isSpace x = false ∧ x ≠ 93 := by
  cases h with
  | null => exact ⟨110, _, rfl, by decide⟩
  | yes => exact ⟨116, _, rfl, by decide⟩
  | no => exact ⟨102, _, rfl, by decide⟩
  | number h =>
    obtain ⟨x, t, rfl, hx⟩ := h.begins
    exact ⟨x, t, rfl, not_space_of_startsNumber hx, ne_of_startsNumber hx (by decide)⟩
  | string h => exact ⟨34, _, rfl, by decide⟩
  | emptyArray h => exact ⟨91, _, rfl, by decide⟩
  | array h => exact ⟨91, _, rfl, by decide⟩
  | emptyObject h => exact ⟨123, _, rfl, by decide⟩
  | object h => exact ⟨123, _, rfl, by decide⟩

theorem SpeltItems.begins (h : SpeltItems s items) :
    ∃ x u, skipSpace (s ++ r) = x :: u ∧ x ≠ 93 := by
  cases h with
  | last hb h ha =>
    obtain ⟨x, t, rfl, hs, hx⟩ := h.begins
    rw [List.append_assoc, skipSpace_blank hb, List.cons_append, List.cons_append,
      skipSpace_cons hs]
    exact ⟨x, _, rfl, hx⟩
  | more hb h ha hmore =>
    obtain ⟨x, t, rfl, hs, hx⟩ := h.begins
    rw [List.append_assoc, skipSpace_blank hb, List.cons_append, List.cons_append,
      skipSpace_cons hs]
    exact ⟨x, _, rfl, hx⟩

theorem SpeltMembers.begins (h : SpeltMembers s members) :
    ∃ u, skipSpace (s ++ r) = 34 :: u := by
  cases h with
  | last hb =>
    rw [List.append_assoc, skipSpace_blank hb, List.cons_append, skipSpace_cons (by decide)]
    exact ⟨_, rfl⟩
  | more hb =>
    rw [List.append_assoc, skipSpace_blank hb, List.cons_append, skipSpace_cons (by decide)]
    exact ⟨_, rfl⟩

theorem Numeral.scans {spelling : Spelling} (h : Numeral s spelling) (hr : Follows r) :
    scanNode (fuel + 1) (s ++ r) = (.number spelling.value, r) := by
  have hscan := scanNumber_numeral h hr
  obtain ⟨x, t, rfl, hx⟩ := h.begins
  have hne {y : UInt8} (hy : startsNumber y = false) : x ≠ y := ne_of_startsNumber hx hy
  have hfirst : (x = 45 || isDigit x) = true := hx
  rw [List.cons_append] at hscan ⊢
  rw [scanNode_scalar (not_space_of_startsNumber hx) (hne (by decide)) (hne (by decide)),
    scanScalar, if_neg (hne (by decide)), if_neg (hne (by decide)), if_neg (hne (by decide)),
    if_neg (hne (by decide)), if_pos hfirst, hscan]

/-- The fuel for a text suffices for what stands behind its first byte, a level further down. -/
theorem exists_fuel (h : 2 * (x :: t).length ≤ fuel) : ∃ k, fuel = k + 1 ∧ 2 * t.length < k := by
  rw [List.length_cons] at h
  exact ⟨fuel - 1, by omega, by omega⟩

mutual
/-- A text that spells a value is read as that value, given this much fuel. -/
theorem Spelt.scans {s : Bytes} {n : Node} : Spelt s n → ∀ (fuel : Nat) (r : Bytes),
    2 * s.length ≤ fuel → Follows r → scanNode fuel (s ++ r) = (n, r)
  | .null, fuel, r, hf, _ => by
    obtain ⟨k, rfl, -⟩ := exists_fuel hf
    have hw := @scanWord_append r (utf8 "ull")
    rw [show utf8 "null" = 110 :: utf8 "ull" from rfl, List.cons_append,
      scanNode_scalar (by decide) (by decide) (by decide)]
    simp [scanScalar, hw]
  | .yes, fuel, r, hf, _ => by
    obtain ⟨k, rfl, -⟩ := exists_fuel hf
    have hw := @scanWord_append r (utf8 "rue")
    rw [show utf8 "true" = 116 :: utf8 "rue" from rfl, List.cons_append,
      scanNode_scalar (by decide) (by decide) (by decide)]
    simp [scanScalar, hw]
  | .no, fuel, r, hf, _ => by
    obtain ⟨k, rfl, -⟩ := exists_fuel hf
    have hw := @scanWord_append r (utf8 "alse")
    rw [show utf8 "false" = 102 :: utf8 "alse" from rfl, List.cons_append,
      scanNode_scalar (by decide) (by decide) (by decide)]
    simp [scanScalar, hw]
  | .number h, fuel, r, hf, hr => by
    obtain ⟨x, t, rfl, -⟩ := h.begins
    obtain ⟨k, rfl, -⟩ := exists_fuel hf
    exact h.scans hr
  | .string h, fuel, r, hf, _ => by
    obtain ⟨k, rfl, -⟩ := exists_fuel hf
    rw [List.cons_append, scanNode_scalar (by decide) (by decide) (by decide), List.append_assoc,
      List.singleton_append]
    simp [scanScalar, skipQuoted_inside h, readQuoted_inside h]
  | .emptyArray h, fuel, r, hf, _ => by
    obtain ⟨k, rfl, -⟩ := exists_fuel hf
    rw [List.cons_append, List.append_assoc, List.singleton_append, scanNode_close h]
  | .array h, fuel, r, hf, _ => by
    obtain ⟨k, rfl, hk⟩ := exists_fuel hf
    obtain ⟨x, u, hx, h93⟩ := @SpeltItems.begins r _ _ h
    rw [List.cons_append, scanNode_array hx h93, h.scans k r (by omega)]
  | .emptyObject h, fuel, r, hf, _ => by
    obtain ⟨k, rfl, -⟩ := exists_fuel hf
    rw [List.cons_append, List.append_assoc, List.singleton_append, scanNode_closeObject h]
  | .object h, fuel, r, hf, _ => by
    obtain ⟨k, rfl, hk⟩ := exists_fuel hf
    obtain ⟨u, hu⟩ := @SpeltMembers.begins r _ _ h
    rw [List.cons_append, scanNode_object hu, ← hu, h.scans k r (by omega)]

theorem SpeltItems.scans {s : Bytes} {items : Items} : SpeltItems s items →
    ∀ (fuel : Nat) (r : Bytes), 2 * s.length ≤ fuel → scanItem fuel (s ++ r) = (items, r)
  | .last hb h ha, fuel, r, hf => by
    simp only [List.length_append, List.length_cons] at hf
    obtain ⟨k, rfl⟩ : ∃ k, fuel = k + 1 := ⟨fuel - 1, by omega⟩
    have hfirst := h.scans k _ (by omega) (ha.follows (@Follows.of_mem 93 r rfl))
    simp only [List.append_assoc, List.singleton_append]
    exact scanItem_last ((scanNode_blank hb).trans hfirst) ha
  | .more (t := t) hb h ha hmore, fuel, r, hf => by
    simp only [List.length_append, List.length_cons] at hf
    obtain ⟨k, rfl⟩ : ∃ k, fuel = k + 1 := ⟨fuel - 1, by omega⟩
    have hfirst := h.scans k _ (by omega) (ha.follows (@Follows.of_mem 44 (t ++ r) rfl))
    obtain ⟨x, u, hx, h93⟩ := @SpeltItems.begins r _ _ hmore
    simp only [List.append_assoc, List.cons_append]
    rw [scanItem_more ((scanNode_blank hb).trans hfirst) ha hx h93, hmore.scans k r (by omega)]

theorem SpeltMembers.scans {s : Bytes} {members : Members} : SpeltMembers s members →
    ∀ (fuel : Nat) (r : Bytes), 2 * s.length ≤ fuel →
      scanMember fuel (skipSpace (s ++ r)) = (members, r)
  | .last hb hkey hbetween hfront h ha, fuel, r, hf => by
    simp only [List.length_append, List.length_cons] at hf
    obtain ⟨k, rfl⟩ : ∃ k, fuel = k + 1 := ⟨fuel - 1, by omega⟩
    have hfirst := h.scans k _ (by omega) (ha.follows (@Follows.of_mem 125 r rfl))
    simp only [List.append_assoc, List.cons_append, List.nil_append]
    rw [skipSpace_blank hb, skipSpace_cons (by decide)]
    exact scanMember_last hkey hbetween ((scanNode_blank hfront).trans hfirst) ha
  | .more (t := t) hb hkey hbetween hfront h ha hmore, fuel, r, hf => by
    simp only [List.length_append, List.length_cons] at hf
    obtain ⟨k, rfl⟩ : ∃ k, fuel = k + 1 := ⟨fuel - 1, by omega⟩
    have hfirst := h.scans k _ (by omega) (ha.follows (@Follows.of_mem 44 (t ++ r) rfl))
    obtain ⟨u, hu⟩ := @SpeltMembers.begins r _ _ hmore
    simp only [List.append_assoc, List.cons_append]
    rw [skipSpace_blank hb, skipSpace_cons (by decide),
      scanMember_more hkey hbetween ((scanNode_blank hfront).trans hfirst) ha hu, ← hu,
      hmore.scans k r (by omega)]
end

/-- A text of one value between blanks is read whole. -/
theorem scan_spelt {before after : Bytes} (hb : Blank before) (h : Spelt s n) (ha : Blank after) :
    scan (before ++ (s ++ after)) = (n, after) := by
  have hend : Follows after := by
    have h := ha.follows (r := []) (by intro c t hc; cases hc)
    rwa [List.append_nil] at h
  rw [scan, scanNode_blank hb]
  refine h.scans _ after ?_ hend
  simp only [List.length_append]
  omega

theorem decode_spelt {α : Type} {read : Node → Result α} {a : α} {before after : Bytes}
    (hb : Blank before) (h : Spelt s n) (ha : Blank after) (hread : read n = .ok a) :
    decode read (before ++ (s ++ after)) = .ok a := by
  have hspace : skipSpace after = [] := by
    have h := skipSpace_blank (s := []) ha
    rwa [List.append_nil] at h
  simp [decode, scan_spelt hb h ha, hread, onlySpace, hspace, bind, Except.bind, pure, Except.pure]

mutual
/-- What is spelt by the grammar can be passed over. -/
theorem Spelt.unblocked {s : Bytes} {n : Node} : Spelt s n → n.blocked = none
  | .null | .yes | .no | .number _ | .string _ | .emptyArray _ | .emptyObject _ => by
    simp [Node.blocked, Items.blocked, Members.blocked]
  | .array h => by rw [Node.blocked, h.unblocked]
  | .object h => by rw [Node.blocked, h.unblocked]

theorem SpeltItems.unblocked {s : Bytes} {items : Items} : SpeltItems s items → items.blocked = none
  | .last _ h _ => by simp [Items.blocked, h.unblocked]
  | .more _ h _ hmore => by simp [Items.blocked, h.unblocked, hmore.unblocked]

theorem SpeltMembers.unblocked {s : Bytes} {members : Members} :
    SpeltMembers s members → members.blocked = none
  | .last _ _ _ _ h _ => by simp [Members.blocked, h.unblocked]
  | .more _ _ _ _ h _ hmore => by simp [Members.blocked, h.unblocked, hmore.unblocked]
end

end SpaceGateway.Json
