import SpaceGateway.Proofs.Grammar
import SpaceGateway.Json.Record
/-!
What the reader takes for a value is one by the grammar. So a text is read just if it spells a value
that its reader understands, with nothing but blanks around it; and no array or object is read before
its last bracket has come.
-/
namespace SpaceGateway.Json

variable {x : UInt8} {fuel : Nat} {r s t : Bytes} {n : Node} {items : Items} {members : Members}
variable {minus : Bool} {whole fraction : List Nat} {spelling : Spelling}

theorem inside_of_skipQuoted (h : skipQuoted s = .ok r) : ∃ t, Inside t ∧ s = t ++ 34 :: r := by
  fun_induction skipQuoted s with
  | case1 | case4 | case5 | case7 | case8 | case9 => cases h
  | case2 => cases h; exact ⟨[], .nil, rfl⟩
  | case3 a b c d s hunit ih =>
    obtain ⟨t, ht, rfl⟩ := ih h
    exact ⟨_, .unit hunit ht, rfl⟩
  | case6 e s hne he hletter ih =>
    obtain ⟨t, ht, rfl⟩ := ih h
    exact ⟨_, .letter hletter ht, rfl⟩
  | case10 b s h34 hunit hletter hend hb ih =>
    have h92 : b ≠ 92 := by
      rintro rfl
      cases s with
      | nil => exact hend rfl rfl
      | cons e s => exact hletter e s rfl rfl
    obtain ⟨t, ht, rfl⟩ := ih h
    exact ⟨b :: t, .plain ⟨h34, h92, hb⟩ ht, rfl⟩

theorem eq_of_scanWord {w : Bytes} (h : scanWord w s = .ok r) : s = w ++ r := by
  fun_induction scanWord w s with
  | case1 => cases h; rfl
  | case2 | case4 => cases h
  | case3 c w s ih => rw [ih h, List.cons_append]

theorem exists_digits {ds : List Nat} (h : digits s = (ds, r)) (hds : ds ≠ []) :
    ∃ t, Digits t ∧ ds = t.map digit ∧ s = t ++ r := by
  obtain ⟨rfl, rfl⟩ := Prod.mk.inj h
  refine ⟨s.takeWhile isDigit, ⟨fun b hb => ?_, ?_⟩, rfl, List.takeWhile_append_dropWhile.symm⟩
  · exact List.all_eq_true.1 List.all_takeWhile b hb
  · rintro he
    exact hds (by rw [he, List.map_nil])

/-- An exponent is read as its sign and its digits. -/
theorem exists_sign (minus : Bool) (whole fraction : List Nat) (s : Bytes) :
    ∃ sign negative u, Sign sign negative ∧ s = sign ++ u ∧
      scanExponent minus whole fraction s =
        match digits u with
        | ([], r) => .broken (digitDue r)
        | (ds, r) => .spelled ⟨minus, whole, fraction, some (negative, ds)⟩ r := by
  cases s with
  | nil => exact ⟨[], false, [], .none, rfl, rfl⟩
  | cons c u =>
    by_cases h43 : c = 43
    · subst h43
      exact ⟨[43], false, u, .plus, rfl, rfl⟩
    by_cases h45 : c = 45
    · subst h45
      exact ⟨[45], true, u, .minus, rfl, rfl⟩
    · refine ⟨[], false, c :: u, .none, rfl, ?_⟩
      exact scanExponent.eq_3 minus whole fraction (c :: u) (by simpa using h43) (by simpa using h45)

theorem exponent_of_scanExponent {e : UInt8} (he : e = 101 ∨ e = 69)
    (h : scanExponent minus whole fraction s = .spelled spelling r) :
    ∃ t exponent, Exponent t exponent ∧ e :: s = t ++ r ∧
      spelling = ⟨minus, whole, fraction, exponent⟩ := by
  obtain ⟨sign, negative, u, hsign, rfl, hu⟩ := exists_sign minus whole fraction s
  rw [hu] at h
  split at h
  · cases h
  · rename_i ds r' hne hd
    cases h
    obtain ⟨t, ht, rfl, rfl⟩ := exists_digits hd hne
    exact ⟨_, _, .some he hsign ht, by simp, rfl⟩

theorem exponent_of_scanTail (h : scanTail minus whole fraction s = .spelled spelling r) :
    ∃ t exponent, Exponent t exponent ∧ s = t ++ r ∧
      spelling = ⟨minus, whole, fraction, exponent⟩ := by
  unfold scanTail at h
  split at h
  · exact exponent_of_scanExponent (.inl rfl) h
  · exact exponent_of_scanExponent (.inr rfl) h
  · cases h
    exact ⟨[], none, .none, rfl, rfl⟩

theorem numeral_of_scanUnsigned (h : scanUnsigned minus s = .spelled spelling r) :
    ∃ t, Numeral ((if minus then [45] else []) ++ t) spelling ∧ s = t ++ r := by
  unfold scanUnsigned at h
  split at h
  · cases h
  rename_i whole u hne hd
  obtain ⟨ds, hds, rfl, rfl⟩ := exists_digits hd hne
  split at h
  · cases h
  rename_i hz
  have hz : (ds.map digit).head? = some 0 → ds.length = 1 := by simpa using hz
  split at h
  · split at h
    · cases h
    rename_i fraction v hne hd
    obtain ⟨fs, hfs, rfl, rfl⟩ := exists_digits hd hne
    obtain ⟨t, exponent, ht, rfl, rfl⟩ := exponent_of_scanTail h
    exact ⟨_, .mk minus hds hz (.some hfs) ht, by simp⟩
  · obtain ⟨t, exponent, ht, rfl, rfl⟩ := exponent_of_scanTail h
    exact ⟨_, .mk minus hds hz .none ht, by simp⟩

theorem numeral_of_scanNumber (h : scanNumber s = .spelled spelling r) :
    ∃ t, Numeral t spelling ∧ s = t ++ r := by
  unfold scanNumber at h
  split at h
  · obtain ⟨t, ht, rfl⟩ := numeral_of_scanUnsigned h
    exact ⟨_, ht, rfl⟩
  · obtain ⟨t, ht, rfl⟩ := numeral_of_scanUnsigned h
    exact ⟨_, ht, rfl⟩

theorem spelt_of_scanScalar (h : scanScalar x s = (n, r)) (hn : n.blocked = none) :
    ∃ t, Spelt t n ∧ x :: s = t ++ r := by
  unfold scanScalar at h
  split at h
  · rename_i hx
    split at h
    · rename_i hw
      cases h
      exact ⟨_, .null, by rw [hx, eq_of_scanWord hw]; rfl⟩
    · cases h
      cases hn
  split at h
  · rename_i hx
    split at h
    · rename_i hw
      cases h
      exact ⟨_, .yes, by rw [hx, eq_of_scanWord hw]; rfl⟩
    · cases h
      cases hn
  split at h
  · rename_i hx
    split at h
    · rename_i hw
      cases h
      exact ⟨_, .no, by rw [hx, eq_of_scanWord hw]; rfl⟩
    · cases h
      cases hn
  split at h
  · rename_i hx
    split at h
    · rename_i hq
      cases h
      obtain ⟨t, ht, rfl⟩ := inside_of_skipQuoted hq
      rw [readQuoted_inside ht]
      exact ⟨_, .string ht, by simp [hx]⟩
    · cases h
      cases hn
  split at h
  · split at h
    · rename_i hnum
      cases h
      obtain ⟨t, ht, hs⟩ := numeral_of_scanNumber hnum
      exact ⟨t, .number ht, hs⟩
    · cases h
      cases hn
  · cases h
    cases hn

theorem exists_blank (s : Bytes) : ∃ g t, Blank g ∧ s = g ++ t ∧ skipSpace s = t :=
  ⟨s.takeWhile isSpace, skipSpace s, fun b hb => List.all_eq_true.1 List.all_takeWhile b hb,
    List.takeWhile_append_dropWhile.symm, rfl⟩

theorem Blank.append {g g' : Bytes} (h : Blank g) (h' : Blank g') : Blank (g ++ g') := by
  intro b hb
  exact (List.mem_append.1 hb).elim (h b) (h' b)

theorem SpeltItems.blank {g : Bytes} (hg : Blank g) (h : SpeltItems t items) :
    SpeltItems (g ++ t) items := by
  cases h with
  | last hb h ha =>
    rw [← List.append_assoc]
    exact .last (hg.append hb) h ha
  | more hb h ha hmore =>
    rw [← List.append_assoc]
    exact .more (hg.append hb) h ha hmore

theorem SpeltMembers.blank {g : Bytes} (hg : Blank g) (h : SpeltMembers t members) :
    SpeltMembers (g ++ t) members := by
  cases h with
  | last hb hkey hbetween hfront h ha =>
    rw [← List.append_assoc]
    exact .last (hg.append hb) hkey hbetween hfront h ha
  | more hb hkey hbetween hfront h ha hmore =>
    rw [← List.append_assoc]
    exact .more (hg.append hb) hkey hbetween hfront h ha hmore

/-- What is read with this much fuel, unless it is broken, is spelt by the bytes that it takes. -/
structure Sound (fuel : Nat) : Prop where
  node : ∀ {s n r}, scanNode fuel s = (n, r) → n.blocked = none →
    ∃ g t, Blank g ∧ Spelt t n ∧ s = g ++ (t ++ r)
  items : ∀ {s items r}, scanItem fuel s = (items, r) → items.blocked = none →
    ∃ t, SpeltItems t items ∧ s = t ++ r
  members : ∀ {s members r}, scanMember fuel s = (members, r) → members.blocked = none →
    ∃ t, SpeltMembers t members ∧ s = t ++ r

theorem Sound.scanNode_succ (h : Sound fuel) (hs : scanNode (fuel + 1) s = (n, r))
    (hn : n.blocked = none) : ∃ g t, Blank g ∧ Spelt t n ∧ s = g ++ (t ++ r) := by
  obtain ⟨g, v, hg, hv, hspace⟩ := exists_blank s
  suffices ∃ t, Spelt t n ∧ skipSpace s = t ++ r by
    obtain ⟨t, ht, he⟩ := this
    exact ⟨g, t, hg, ht, by rw [← he, hspace, hv]⟩
  unfold scanNode at hs
  split at hs
  · cases hs
    cases hn
  · rename_i u hu
    obtain ⟨g', v, hg', rfl, hspace'⟩ := exists_blank u
    rw [hspace'] at hs
    rw [hu]
    split at hs
    · cases hs
      cases hn
    · cases hs
      exact ⟨_, .emptyArray hg', by simp⟩
    · cases hs
      obtain ⟨t, ht, he⟩ := h.items rfl hn
      refine ⟨_, .array (ht.blank hg'), ?_⟩
      rw [List.cons_append, List.append_assoc, ← he]
  · rename_i u hu
    obtain ⟨g', v, hg', rfl, hspace'⟩ := exists_blank u
    rw [hspace'] at hs
    rw [hu]
    split at hs
    · cases hs
      cases hn
    · cases hs
      exact ⟨_, .emptyObject hg', by simp⟩
    · cases hs
      obtain ⟨t, ht, he⟩ := h.members rfl hn
      refine ⟨_, .object (ht.blank hg'), ?_⟩
      rw [List.cons_append, List.append_assoc, ← he]
  · rename_i hu
    rw [hu]
    exact spelt_of_scanScalar hs hn

theorem Sound.scanItem_succ (h : Sound fuel) (hs : scanItem (fuel + 1) s = (items, r))
    (hn : items.blocked = none) : ∃ t, SpeltItems t items ∧ s = t ++ r := by
  unfold scanItem at hs
  generalize hnode : scanNode fuel s = p at hs
  obtain ⟨n, u⟩ := p
  have hvalue (rest : Items) (hn : (Items.item n rest).blocked = none) :
      rest.blocked = none ∧ ∃ g t, Blank g ∧ Spelt t n ∧ s = g ++ (t ++ u) := by
    rw [Items.blocked, Option.orElse_eq_orElse, Option.orElse_eq_or, Option.or_eq_none_iff] at hn
    exact ⟨hn.2, h.node hnode hn.1⟩
  obtain ⟨g', v, hg', rfl, hspace⟩ := exists_blank u
  dsimp only at hs
  rw [hspace] at hs
  split at hs
  · cases hs
    cases (hvalue _ hn).1
  · cases hs
    obtain ⟨-, g, t, hg, ht, rfl⟩ := hvalue _ hn
    exact ⟨_, .last hg ht hg', by simp⟩
  · rename_i u
    obtain ⟨g'', v, hg'', rfl, hspace⟩ := exists_blank u
    rw [hspace] at hs
    split at hs
    · cases hs
      cases (hvalue _ hn).1
    · cases hs
      obtain ⟨hrest, g, t, hg, ht, rfl⟩ := hvalue _ hn
      obtain ⟨w, hw, he⟩ := h.items rfl hrest
      refine ⟨_, .more hg ht hg' (hw.blank hg''), ?_⟩
      simp only [List.append_assoc, List.cons_append, ← he]
  · cases hs
    cases (hvalue _ hn).1

theorem Sound.scanMember_succ (h : Sound fuel) (hs : scanMember (fuel + 1) s = (members, r))
    (hn : members.blocked = none) : ∃ t, SpeltMembers t members ∧ s = t ++ r := by
  unfold scanMember at hs
  split at hs
  · rename_i s
    split at hs
    · cases hs
      cases hn
    rename_i u hquoted
    obtain ⟨key, hkey, rfl⟩ := inside_of_skipQuoted hquoted
    clear hquoted
    rw [readQuoted_inside hkey] at hs
    obtain ⟨between, v, hbetween, rfl, hspace⟩ := exists_blank u
    rw [hspace] at hs
    split at hs
    · cases hs
      cases hn
    · rename_i u
      generalize hnode : scanNode fuel u = p at hs
      obtain ⟨n, w⟩ := p
      have hvalue (key : Except SyntaxFault String) (rest : Members)
          (hn : (Members.member key n rest).blocked = none) :
          rest.blocked = none ∧ ∃ g t, Blank g ∧ Spelt t n ∧ u = g ++ (t ++ w) := by
        rw [Members.blocked, Option.orElse_eq_orElse, Option.orElse_eq_or,
          Option.or_eq_none_iff] at hn
        exact ⟨hn.2, h.node hnode hn.1⟩
      obtain ⟨g', v, hg', rfl, hspace⟩ := exists_blank w
      dsimp only at hs
      rw [hspace] at hs
      split at hs
      · cases hs
        cases (hvalue _ _ hn).1
      · cases hs
        obtain ⟨-, g, t, hg, ht, rfl⟩ := hvalue _ _ hn
        exact ⟨_, .last blank_nil hkey hbetween hg ht hg', by simp⟩
      · rename_i w
        obtain ⟨g'', v, hg'', rfl, hspace⟩ := exists_blank w
        rw [hspace] at hs
        split at hs
        · cases hs
          cases (hvalue _ _ hn).1
        · cases hs
          cases (hvalue _ _ hn).1
        · cases hs
          obtain ⟨hrest, g, t, hg, ht, rfl⟩ := hvalue _ _ hn
          obtain ⟨w, hw, he⟩ := h.members rfl hrest
          refine ⟨_, .more blank_nil hkey hbetween hg ht hg' (hw.blank hg''), ?_⟩
          simp only [List.append_assoc, List.cons_append, List.nil_append, ← he]
      · cases hs
        cases (hvalue _ _ hn).1
    · cases hs
      cases hn
  · cases hs
    cases hn

theorem sound (fuel : Nat) : Sound fuel := by
  induction fuel with
  | zero =>
    refine ⟨fun hs hn => ?_, fun hs hn => ?_, fun hs hn => ?_⟩
    · cases hs
      cases hn
    · cases hs
      cases hn
    · cases hs
      cases hn
  | succ fuel ih => exact ⟨ih.scanNode_succ, ih.scanItem_succ, ih.scanMember_succ⟩

variable {α : Type} {read : Node → Result α} {a : α}

/-- Whether a reader takes nothing that is broken. -/
def Demanding (read : Node → Result α) : Prop := ∀ n a, read n = .ok a → n.blocked = none

/-- A text is read just if it spells a value, between blanks, that its reader understands. -/
theorem decode_ok_iff (h : Demanding read) :
    decode read s = .ok a ↔ ∃ before t after n, s = before ++ (t ++ after) ∧ Blank before ∧
      Spelt t n ∧ Blank after ∧ read n = .ok a := by
  constructor
  · intro hd
    simp only [decode, bind, Except.bind] at hd
    split at hd
    · cases hd
    rename_i a' hread
    split at hd
    · cases hd
    rename_i hafter
    cases hd
    obtain ⟨g, t, hg, ht, hs⟩ := (sound _).node rfl (h _ _ hread)
    refine ⟨g, t, (scan s).2, (scan s).1, hs, hg, ht, ?_, hread⟩
    unfold onlySpace at hafter
    split at hafter
    · rename_i hempty
      obtain ⟨g', v, hg', hv, hspace⟩ := exists_blank (scan s).2
      rw [List.isEmpty_iff.1 hempty] at hspace
      rwa [hv, ← hspace, List.append_nil]
    · cases hafter
  · rintro ⟨before, t, after, n, rfl, hb, ht, ha, hread⟩
    exact decode_spelt hb ht ha hread

/-- Whether a value is an array or an object. -/
def Node.IsContainer : Node → Prop
  | .array _ | .object _ => True
  | _ => False

/-- A container ends with its own bracket, whatever stands behind it. -/
theorem Spelt.scan_container {g : Bytes} (hg : Blank g) (h : Spelt s n) (hn : n.IsContainer) :
    scan (g ++ (s ++ r)) = (n, r) := by
  have hfuel : ∃ fuel, 2 * (g ++ (s ++ r)).length + 2 = fuel + 1 ∧ 2 * s.length ≤ fuel := by
    refine ⟨_, rfl, ?_⟩
    simp only [List.length_append]
    omega
  obtain ⟨fuel, hk, hf⟩ := hfuel
  rw [scan, scanNode_blank hg, hk]
  cases h with
  | null | yes | no | number | string => cases hn
  | emptyArray h => rw [List.cons_append, List.append_assoc, List.singleton_append, scanNode_close h]
  | emptyObject h =>
    rw [List.cons_append, List.append_assoc, List.singleton_append, scanNode_closeObject h]
  | array h =>
    obtain ⟨x, u, hx, h93⟩ := @SpeltItems.begins r _ _ h
    rw [List.length_cons] at hf
    rw [List.cons_append, scanNode_array hx h93, h.scans fuel r (by omega)]
  | object h =>
    obtain ⟨u, hu⟩ := @SpeltMembers.begins r _ _ h
    rw [List.length_cons] at hf
    rw [List.cons_append, scanNode_object hu, ← hu, h.scans fuel r (by omega)]

/-- A container is not read before its text is complete. -/
theorem decode_front (hread : Demanding read) (hholds : ∀ n a, read n = .ok a → n.IsContainer)
    (h : Spelt (s ++ t) n) (hn : n.IsContainer) (ht : t ≠ []) : ∃ f, decode read s = .error f := by
  cases hd : decode read s with
  | error f => exact ⟨f, rfl⟩
  | ok a =>
    obtain ⟨g, u, g', n', rfl, hg, hu, -, ha⟩ := (decode_ok_iff hread).1 hd
    have hfront := hu.scan_container (r := g' ++ t) hg (hholds n' a ha)
    have hwhole := h.scan_container (r := []) blank_nil hn
    simp only [List.append_assoc, List.nil_append, List.append_nil] at hwhole
    rw [hwhole] at hfront
    have hnil : g' ++ t = [] := (Prod.mk.inj hfront).2.symm
    exact (ht (List.append_eq_nil_iff.1 hnil).2).elim

theorem not_wrongType (wanted : String) (n : Node) : n.wrongType wanted ≠ .ok a := by
  unfold Node.wrongType
  split <;> nofun

theorem demanding_readText : Demanding Node.readText := by
  intro n a h
  unfold Node.readText at h
  split at h
  · rfl
  · exact (not_wrongType _ _ h).elim

theorem demanding_readNat (kind : String) (limit : Nat) : Demanding (Node.readNat kind limit) := by
  intro n a h
  unfold Node.readNat at h
  split at h
  · rfl
  · cases h
  · exact (not_wrongType _ _ h).elim

theorem Demanding.map {β : Type} (h : Demanding read) (f : α → β) :
    Demanding fun n => (read n).map f := by
  intro n b hb
  cases hr : read n with
  | ok a => exact h n a hr
  | error e =>
    simp only [hr] at hb
    cases hb

theorem demanding_readUInt32 : Demanding Node.readUInt32 := (demanding_readNat _ _).map _

theorem Demanding.option (h : Demanding read) : Demanding (Node.readOption read) := by
  intro n a ha
  unfold Node.readOption at ha
  split at ha
  · rfl
  · cases ha
  · exact h.map some n a ha

theorem demanding_readNull : Demanding Node.readNull := by
  intro n a h
  unfold Node.readNull at h
  split at h
  · rfl
  · exact (not_wrongType _ _ h).elim

theorem eq_close_of_onlyClose {u : Unit} (h : members.onlyClose = .ok u) : members = .close := by
  unfold Members.onlyClose at h
  split at h
  · rfl
  · cases h
  · cases h

theorem demanding_readVariant {ν : Type} {variants : List (String × ν)} {bare : ν → Result α}
    {read : ν → Node → Result α} (h : ∀ v, Demanding (read v)) :
    Demanding (Node.readVariant variants bare read) := by
  intro n a ha
  unfold Node.readVariant at ha
  split at ha
  · rfl
  · rfl
  · rename_i members
    unfold Members.readVariant at ha
    split at ha
    · simp only [bind, Except.bind] at ha
      split at ha
      · cases ha
      split at ha
      · cases ha
      rename_i v hv b hb
      split at ha
      · cases ha
      rename_i hclose
      cases eq_close_of_onlyClose hclose
      have hvalue := h _ _ b hb
      simp [Node.blocked, Members.blocked, hvalue]
    · cases ha
    · simp only [bind, Except.bind] at ha
      split at ha <;> cases ha
    all_goals cases ha
  all_goals cases ha

theorem demanding_readPlain {ν : Type} {variants : List (String × ν)} :
    Demanding (Node.readPlain variants) :=
  demanding_readVariant fun _ n a h => by
    cases hn : n.readNull with
    | ok => exact demanding_readNull n _ hn
    | error => simp [hn, bind, Except.bind] at h

/-- Whether a field takes nothing that is broken. -/
def Field.Demanding (f : Field) : Prop := ∀ n, f.accepts n = .ok () → n.blocked = none

theorem Demanding.field (h : Demanding read) (name : String) : (Field.of name read).Demanding :=
  fun n hn => h.map (fun _ => ()) n () hn

variable {fields : List Field} {slots slots' : Slots} {key : String}

theorem mem_of_claim {f : Field} {i : Nat} (h : claim fields key slots = .ok (some (f, i))) :
    f ∈ fields := by
  unfold claim at h
  split at h
  · cases h
  · split at h
    · cases h
    · obtain ⟨f', hf, he⟩ := Option.map_eq_some_iff.1 (Except.ok.inj h)
      cases he
      exact List.mem_of_getElem? hf

theorem unblocked_of_skip {u : Unit} (h : n.skip = .ok u) : n.blocked = none := by
  unfold Node.skip at h
  split at h
  · assumption
  · cases h

theorem unblocked_member {value : Node} {key : Except SyntaxFault String} (hv : value.blocked = none)
    (hm : members.blocked = none) : (Members.member key value members).blocked = none := by
  simp [Members.blocked, hv, hm]

theorem unblocked_item {items : Items} (hv : n.blocked = none) (hi : items.blocked = none) :
    (Items.item n items).blocked = none := by
  simp [Items.blocked, hv, hi]

theorem unblocked_of_fill (h : ∀ f ∈ fields, f.Demanding) :
    ∀ (members : Members) (slots : Slots), members.fill fields slots = .ok slots' →
      members.blocked = none
  | .close, _, _ => rfl
  | .member (.ok key) value rest, slots, hfill => by
    simp only [Members.fill, bind, Except.bind] at hfill
    split at hfill
    · cases hfill
    rename_i hclaim
    split at hfill
    · split at hfill
      · cases hfill
      rename_i haccepts
      exact unblocked_member (h _ (mem_of_claim hclaim) value haccepts)
        (unblocked_of_fill h rest _ hfill)
    · split at hfill
      · cases hfill
      rename_i hskip
      exact unblocked_member (unblocked_of_skip hskip) (unblocked_of_fill h rest _ hfill)
  | .keyOnly (.ok key) f, slots, hfill => by
    simp only [Members.fill, bind, Except.bind] at hfill
    split at hfill <;> cases hfill

theorem unblocked_of_onlyClose {u : Unit} (h : items.onlyClose = .ok u) : items.blocked = none := by
  unfold Items.onlyClose at h
  split at h
  · rfl
  all_goals cases h

theorem unblocked_of_fillItems {wanted : String} : ∀ (fields : List Field) (items : Items)
    (position : Nat) (slots : Slots), (∀ f ∈ fields, f.Demanding) →
      items.fill wanted position fields = .ok slots → items.blocked = none
  | [], items, position, slots, _, hfill => by
    simp only [Items.fill, bind, Except.bind] at hfill
    split at hfill
    · cases hfill
    rename_i hclose
    exact unblocked_of_onlyClose hclose
  | _ :: _, .close, _, _, _, _ => rfl
  | f :: fields, .item value rest, position, slots, h, hfill => by
    simp only [Items.fill, bind, Except.bind] at hfill
    split at hfill
    · cases hfill
    rename_i haccepts
    split at hfill
    · cases hfill
    rename_i hrest
    exact unblocked_item (h f List.mem_cons_self value haccepts)
      (unblocked_of_fillItems fields rest _ _ (fun g hg => h g (List.mem_cons_of_mem f hg)) hrest)

/-- A record is read from a container that is not broken. -/
theorem container_of_readRecord {name : String} (h : ∀ f ∈ fields, f.Demanding)
    (hr : n.readRecord name fields = .ok slots) : n.IsContainer ∧ n.blocked = none := by
  unfold Node.readRecord at hr
  split at hr
  · exact ⟨trivial, unblocked_of_fill h _ _ hr⟩
  · exact ⟨trivial, unblocked_of_fillItems _ _ _ _ h hr⟩
  · exact (not_wrongType _ _ hr).elim

end SpaceGateway.Json
