import Mathlib.Data.List.Nodup
import SpaceGateway.Proofs.Presentation
/-!
A record is read from whatever presents it: its slots are filled with what shows its parts, and the
slots of members that were left out stay empty. So is a tagged value, once its tag is found among the
other members.
-/
namespace SpaceGateway.Json

variable {α β : Type} {p : Part} {parts : List Part} {fields : List Field}
  {known others todo members : List (String × Node)} {m : String × Node} {n : Node} {a : α}
  {read : Node → Result α} {Harmless : Node → Prop} {slots : Slots} {i : Nat} {name : String}

/-- Whether a reader reads this value from whatever shows the part. -/
def Part.Reads (p : Part) (read : Node → Result α) (a : α) : Prop :=
  ∀ n, p.Shows n → read n = .ok a

/-- Whether a field is the part's own, and takes whatever shows the part. -/
structure Part.Suits (p : Part) (f : Field) : Prop where
  name : f.name = p.name
  accepts : ∀ n, p.Shows n → f.accepts n = .ok ()

theorem Part.Reads.suits (h : p.Reads read a) : p.Suits (.of p.name read) :=
  ⟨rfl, fun n hn => by simp [Field.of, h n hn, Except.map]⟩

theorem Part.Suits.orDefault {f : Field} (h : p.Suits f) : p.Suits f.orDefault :=
  ⟨h.name, h.accepts⟩

/-- A slot that holds what shows the part, or is empty because the part was left out. -/
def Part.Filled (p : Part) : Option Node → Prop
  | some n => p.Shows n
  | none => p.Omissible

/-- Whether the members to come give a part once, or rightly leave it out. -/
def Part.Due (p : Part) (todo : List (String × Node)) : Prop :=
  (∃ n, p.Shows n ∧ (p.name, n) ∈ todo ∧ (todo.map Prod.fst).count p.name = 1) ∨
    p.Omissible ∧ p.name ∉ todo.map Prod.fst

theorem sublist_names (h : Shown parts known) :
    (known.map Prod.fst).Sublist (parts.map Part.name) := by
  induction h with
  | nil => exact .slnil
  | give hn _ ih => exact ih.cons_cons _
  | leave ho _ ih => exact ih.cons _

theorem shown_or_left (h : Shown parts known) (hp : p ∈ parts)
    (hnames : (parts.map Part.name).Nodup) :
    (∃ n, p.Shows n ∧ (p.name, n) ∈ known) ∨ p.Omissible ∧ p.name ∉ known.map Prod.fst := by
  induction h with
  | nil => cases hp
  | @give q n parts members hn hrest ih =>
    rw [List.map_cons, List.nodup_cons] at hnames
    obtain rfl | hp := List.mem_cons.1 hp
    · exact Or.inl ⟨n, hn, List.mem_cons_self⟩
    · obtain ⟨n', hn', hmem⟩ | ⟨ho, hnot⟩ := ih hp hnames.2
      · exact Or.inl ⟨n', hn', List.mem_cons_of_mem _ hmem⟩
      · refine Or.inr ⟨ho, fun hmem => ?_⟩
        obtain heq | hmem := List.mem_cons.1 hmem
        · have hname : p.name = q.name := heq
          exact hnames.1 (hname ▸ List.mem_map_of_mem hp)
        · exact hnot hmem
  | @leave q parts members ho hrest ih =>
    rw [List.map_cons, List.nodup_cons] at hnames
    obtain rfl | hp := List.mem_cons.1 hp
    · exact Or.inr ⟨ho, fun hmem => hnames.1 ((sublist_names hrest).subset hmem)⟩
    · exact ih hp hnames.2

/-- An object gives each part once, or leaves it out, in whatever order. -/
theorem due_of_shown (h : Shown parts known) (hnames : (parts.map Part.name).Nodup)
    (hothers : ∀ m ∈ others, m.1 ∉ parts.map Part.name) (hperm : members.Perm (known ++ others))
    (hp : p ∈ parts) : p.Due members := by
  have hforeign : p.name ∉ others.map Prod.fst := by
    intro hmem
    obtain ⟨m, hm, hname⟩ := List.mem_map.1 hmem
    exact hothers m hm (hname ▸ List.mem_map_of_mem hp)
  have hkeys : (members.map Prod.fst).Perm (known.map Prod.fst ++ others.map Prod.fst) := by
    rw [← List.map_append]
    exact hperm.map _
  obtain ⟨n, hn, hmem⟩ | ⟨ho, hnot⟩ := shown_or_left h hp hnames
  · refine Or.inl ⟨n, hn, hperm.mem_iff.2 (List.mem_append_left _ hmem), ?_⟩
    have hnodup : (known.map Prod.fst).Nodup := (sublist_names h).nodup hnames
    rw [hkeys.count_eq, List.count_append, List.count_eq_zero.2 hforeign]
    exact List.count_eq_one_of_mem hnodup (List.mem_map_of_mem (f := Prod.fst) hmem)
  · refine Or.inr ⟨ho, fun hmem => ?_⟩
    obtain hmem | hmem := List.mem_append.1 (hkeys.mem_iff.1 hmem)
    · exact hnot hmem
    · exact hforeign hmem

/-- A field with its part and its slot. -/
structure Row where
  field : Field
  part : Part
  slot : Option Node

/-- Whether the slot is filled and nothing more comes for it, or it is empty and the members to come
owe what the part is due. -/
structure Row.Due (row : Row) (todo : List (String × Node)) : Prop where
  suits : row.part.Suits row.field
  slot : match row.slot with
    | some n => row.part.Shows n ∧ row.part.name ∉ todo.map Prod.fst
    | none => row.part.Due todo

variable {row : Row} {pre post rows : List Row}

/-- A member of another name changes nothing. -/
theorem Row.Due.skip (h : row.Due (m :: todo)) (hm : m.1 ≠ row.part.name) : row.Due todo := by
  obtain ⟨field, part, slot⟩ := row
  refine ⟨h.suits, ?_⟩
  have hslot := h.slot
  cases slot with
  | some n => exact ⟨hslot.1, fun hmem => hslot.2 (List.mem_cons_of_mem _ hmem)⟩
  | none =>
    obtain ⟨n, hn, hmem, hcount⟩ | ⟨ho, hnot⟩ := hslot
    · refine Or.inl ⟨n, hn, ?_, ?_⟩
      · obtain heq | hmem := List.mem_cons.1 hmem
        · exact (hm (congrArg Prod.fst heq.symm)).elim
        · exact hmem
      · rwa [List.map_cons, List.count_cons_of_ne hm] at hcount
    · exact Or.inr ⟨ho, fun hmem => hnot (List.mem_cons_of_mem _ hmem)⟩

/-- A member of the part's name finds its slot empty, shows the part, and is the only one. -/
theorem Row.Due.take (h : row.Due (m :: todo)) (hm : m.1 = row.part.name) :
    row.slot = none ∧ row.part.Shows m.2 ∧ row.part.name ∉ todo.map Prod.fst := by
  obtain ⟨field, part, slot⟩ := row
  have hm : m.1 = part.name := hm
  have hfirst : part.name ∈ (m :: todo).map Prod.fst := by
    rw [List.map_cons, hm]
    exact List.mem_cons_self
  have hslot := h.slot
  cases slot with
  | some n => exact (hslot.2 hfirst).elim
  | none =>
    obtain ⟨n, hn, hmem, hcount⟩ | ⟨ho, hnot⟩ := hslot
    · have hrest : part.name ∉ todo.map Prod.fst := by
        rw [List.map_cons, hm, List.count_cons_self] at hcount
        exact List.count_eq_zero.1 (Nat.succ.inj hcount)
      refine ⟨rfl, ?_, hrest⟩
      obtain heq | hmem := List.mem_cons.1 hmem
      · rwa [← heq]
      · exact (hrest (List.mem_map_of_mem (f := Prod.fst) hmem)).elim
    · exact (hnot hfirst).elim

theorem claim_other {key : String} (h : key ∉ fields.map Field.name) :
    claim fields key slots = .ok none := by
  have hnone : fields.findIdx? (·.name == key) = none := by
    rw [List.findIdx?_eq_none_iff]
    intro f hf
    have hne : f.name ≠ key := fun heq => h (heq ▸ List.mem_map_of_mem hf)
    simpa using hne
  rw [claim, hnone]

theorem names_differ (hnames : ((pre ++ row :: post).map (·.field.name)).Nodup) :
    ∀ r ∈ pre ++ post, r.field.name ≠ row.field.name := by
  have hperm : (pre ++ row :: post).Perm (row :: (pre ++ post)) := List.perm_middle
  have h := (hperm.map (·.field.name)).nodup_iff.1 hnames
  rw [List.map_cons, List.nodup_cons] at h
  intro r hr heq
  exact h.1 (heq ▸ List.mem_map_of_mem (f := (·.field.name)) hr)

theorem claim_row (hnames : ((pre ++ row :: post).map (·.field.name)).Nodup)
    (hslot : row.slot = none) :
    claim ((pre ++ row :: post).map Row.field) row.field.name
      ((pre ++ row :: post).map Row.slot) = .ok (some (row.field, pre.length)) := by
  have hfind : ((pre ++ row :: post).map Row.field).findIdx? (·.name == row.field.name) =
      some pre.length := by
    have hnone : (pre.map Row.field).findIdx? (·.name == row.field.name) = none := by
      rw [List.findIdx?_eq_none_iff]
      intro f hf
      obtain ⟨r, hr, rfl⟩ := List.mem_map.1 hf
      simpa using names_differ hnames r (List.mem_append_left post hr)
    rw [List.map_append, List.findIdx?_append, hnone]
    simp [List.findIdx?_cons]
  rw [claim, hfind]
  simp [hslot]

theorem Row.Due.filled (h : row.Due []) : row.part.Filled row.slot := by
  obtain ⟨field, part, slot⟩ := row
  have hslot := h.slot
  cases slot with
  | some n => exact hslot.1
  | none =>
    obtain ⟨n, -, hmem, -⟩ | ⟨ho, -⟩ := hslot
    · cases hmem
    · exact ho

/-- The member for a row fills its slot, and leaves the other rows what they are due. -/
theorem due_take (hnames : ((pre ++ row :: post).map (·.field.name)).Nodup)
    (hdue : ∀ r ∈ pre ++ row :: post, r.Due (m :: todo)) (hm : m.1 = row.field.name) :
    row.slot = none ∧ row.part.Shows m.2 ∧
      ∀ r ∈ pre ++ { row with slot := some m.2 } :: post, r.Due todo := by
  have hrow := hdue row (List.mem_append_right pre List.mem_cons_self)
  obtain ⟨hslot, hshows, hlast⟩ := hrow.take (hm.trans hrow.suits.name)
  have hother : ∀ r ∈ pre ++ post, r ∈ pre ++ row :: post → r.Due todo := by
    intro r hr hmem
    refine (hdue r hmem).skip fun heq => names_differ hnames r hr ?_
    rw [(hdue r hmem).suits.name, ← heq, hm]
  refine ⟨hslot, hshows, fun r hr => ?_⟩
  obtain hr | hr := List.mem_append.1 hr
  · exact hother r (List.mem_append_left post hr) (List.mem_append_left _ hr)
  · obtain rfl | hr := List.mem_cons.1 hr
    · exact ⟨hrow.suits, hshows, hlast⟩
    · exact hother r (List.mem_append_right pre hr)
        (List.mem_append_right pre (List.mem_cons_of_mem row hr))

/-- Each member fills its own slot, in whatever order the members come. -/
theorem fillMembers_rows (hnames : (rows.map (·.field.name)).Nodup)
    (hdue : ∀ row ∈ rows, row.Due todo) :
    ∃ slots, Content.fillMembers (rows.map Row.field) (rows.map Row.slot) todo = .ok slots ∧
      List.Forall₂ Part.Filled (rows.map Row.part) slots := by
  induction todo generalizing rows with
  | nil =>
    refine ⟨rows.map Row.slot, rfl, ?_⟩
    rw [List.forall₂_map_left_iff, List.forall₂_map_right_iff, List.forall₂_same]
    exact fun row hrow => (hdue row hrow).filled
  | cons m todo ih =>
    by_cases hm : m.1 ∈ rows.map (·.field.name)
    · obtain ⟨row, hrow, hname⟩ := List.mem_map.1 hm
      have haccepts := (hdue row hrow).suits.accepts m.2
      obtain ⟨pre, post, rfl⟩ := List.append_of_mem hrow
      obtain ⟨hslot, hshows, hrest⟩ := due_take hnames hdue hname.symm
      have hset : ((pre ++ row :: post).map Row.slot).set pre.length (some m.2) =
          (pre ++ { row with slot := some m.2 } :: post).map Row.slot := by
        simp
      rw [Content.fillMembers, ← hname, claim_row hnames hslot]
      simp only [bind, Except.bind, haccepts hshows, hset]
      simpa using ih (by simpa using hnames) hrest
    · have hother : ∀ row ∈ rows, m.1 ≠ row.part.name := by
        intro row hrow heq
        rw [← (hdue row hrow).suits.name] at heq
        exact hm (heq ▸ List.mem_map_of_mem (f := (·.field.name)) hrow)
      rw [Content.fillMembers, claim_other (by simpa using hm)]
      exact ih hnames fun row hrow => (hdue row hrow).skip (hother row hrow)

/-- The rows of a record before anything is read. -/
theorem exists_rows (h : List.Forall₂ Part.Suits parts fields) :
    ∃ rows : List Row, rows.map Row.field = fields ∧ rows.map Row.part = parts ∧
      ∀ row ∈ rows, row.part.Suits row.field ∧ row.slot = none := by
  induction h with
  | nil => exact ⟨[], rfl, rfl, by simp⟩
  | @cons p f parts fields hsuits _ ih =>
    obtain ⟨rows, rfl, rfl, hrows⟩ := ih
    refine ⟨⟨f, p, none⟩ :: rows, rfl, rfl, ?_⟩
    intro row hrow
    obtain rfl | hrow := List.mem_cons.1 hrow
    · exact ⟨hsuits, rfl⟩
    · exact hrows row hrow

theorem fillMembers_due (h : List.Forall₂ Part.Suits parts fields)
    (hnames : (parts.map Part.name).Nodup) (hdue : ∀ p ∈ parts, p.Due members) :
    ∃ slots, Content.fillMembers fields (fields.map fun _ => none) members = .ok slots ∧
      List.Forall₂ Part.Filled parts slots := by
  obtain ⟨rows, rfl, rfl, hrows⟩ := exists_rows h
  have hslots : ((rows.map Row.field).map fun _ => none) = rows.map Row.slot := by
    rw [List.map_map]
    exact List.map_congr_left fun row hrow => (hrows row hrow).2.symm
  have hfields : rows.map (·.field.name) = (rows.map Row.part).map Part.name := by
    rw [List.map_map]
    exact List.map_congr_left fun row hrow => (hrows row hrow).1.name
  rw [hslots]
  refine fillMembers_rows (by rwa [hfields]) fun row hrow => ?_
  obtain ⟨hsuits, hslot⟩ := hrows row hrow
  refine ⟨hsuits, ?_⟩
  rw [hslot]
  exact hdue row.part (List.mem_map_of_mem hrow)

theorem fill_ofList (h : ∀ m ∈ members, m.2.blocked = none) :
    (Members.ofList members).fill fields slots = Content.fillMembers fields slots members := by
  induction members generalizing slots with
  | nil => rfl
  | cons m members ih =>
    have hskip : m.2.skip = .ok () := by rw [Node.skip, h m List.mem_cons_self]
    have hrest (slots : Slots) := @ih slots fun d hd => h d (List.mem_cons_of_mem m hd)
    rw [Members.ofList, Members.fill, Content.fillMembers]
    cases claim fields m.1 slots with
    | error f => rfl
    | ok found =>
      cases found with
      | none => simp only [hskip, hrest, bind, Except.bind]
      | some entry => simp only [hrest, bind, Except.bind]

theorem blocked_ofList : (Members.ofList members).blocked = none ↔
    ∀ m ∈ members, m.2.blocked = none := by
  induction members with
  | nil => simp [Members.ofList, Members.blocked]
  | cons m members ih => simp [Members.ofList, Members.blocked, ih]

variable {nodes : List Node} {wanted : String} {position length total : Nat}

theorem fill_items (h : List.Forall₂ Part.Suits parts fields)
    (hnodes : List.Forall₂ Part.Shows parts nodes) :
    (Items.ofList nodes).fill wanted position fields = .ok (nodes.map some) := by
  induction h generalizing nodes position with
  | nil =>
    cases hnodes
    rfl
  | cons hsuits _ ih =>
    cases hnodes with
    | cons hn hnodes =>
      simp [Items.ofList, Items.fill, hsuits.accepts _ hn, ih hnodes, bind, Except.bind, pure,
        Except.pure]

theorem fillItems_eq (h : List.Forall₂ Part.Suits parts fields)
    (hnodes : List.Forall₂ Part.Shows parts nodes) :
    Content.fillItems wanted length total position fields nodes = .ok (nodes.map some) := by
  induction h generalizing nodes position with
  | nil =>
    cases hnodes
    rfl
  | cons hsuits _ ih =>
    cases hnodes with
    | cons hn hnodes =>
      simp [Content.fillItems, hsuits.accepts _ hn, ih hnodes, bind, Except.bind, pure, Except.pure]

theorem filled_items (h : List.Forall₂ Part.Shows parts nodes) :
    List.Forall₂ Part.Filled parts (nodes.map some) := by
  rw [List.forall₂_map_right_iff]
  exact h

/-- A record is read from whatever presents it. -/
theorem readRecord_presents (name : String) (hsuits : List.Forall₂ Part.Suits parts fields)
    (hnames : (parts.map Part.name).Nodup) (h : Presents parts Harmless n)
    (hskip : n.blocked = none) :
    ∃ slots, n.readRecord name fields = .ok slots ∧ List.Forall₂ Part.Filled parts slots := by
  cases h with
  | object hshown hothers hperm =>
    rw [Node.readRecord, fill_ofList (blocked_ofList.1 hskip)]
    exact fillMembers_due hsuits hnames fun p hp =>
      due_of_shown hshown hnames (fun m hm => (hothers m hm).1) hperm hp
  | array hnodes => exact ⟨_, fill_items hsuits hnodes, filled_items hnodes⟩

theorem readRecord_compact {rows : Rows} (name : String)
    (hsuits : List.Forall₂ Part.Suits (rows.map Part.of) fields)
    (hnames : ((rows.map Part.of).map Part.name).Nodup) (hfit : rows.Fit) :
    ∃ slots, rows.compact.node.readRecord name fields = .ok slots ∧
      List.Forall₂ Part.Filled (rows.map Part.of) slots := by
  have h := @presents_compact rows fun _ => True
  exact readRecord_presents name hsuits hnames h (spelt_render _ hfit.compact).unblocked

variable {tag family spelling : String} {kinds : List (String × β)} {kind : β} {depth : Nat}
  {before after done : List (String × Node)} {content : Content} {seen : Option β}

/-- Members beside the tag are taken up as they come. -/
theorem splitTag_pass (h : ∀ m ∈ before, m.1 ≠ tag ∧ m.2.flaw depth = none) :
    (Members.ofList (before ++ after)).splitTag tag kinds depth seen done =
      (Members.ofList after).splitTag tag kinds depth seen (before.reverse ++ done) := by
  induction before generalizing done with
  | nil => rfl
  | cons m before ih =>
    obtain ⟨hne, hflaw⟩ := h m List.mem_cons_self
    have hrest := @ih (m :: done) fun d hd => h d (List.mem_cons_of_mem m hd)
    have htake : takeUp depth m.2 = .ok () := by rw [takeUp, hflaw]
    rw [List.cons_append, Members.ofList, Members.splitTag, if_neg hne, htake, List.reverse_cons,
      List.append_assoc, List.singleton_append]
    exact hrest

theorem splitTag_members (hkind : kinds.lookup spelling = some kind)
    (h : ∀ m ∈ before ++ after, m.1 ≠ tag ∧ m.2.flaw depth = none) :
    (Members.ofList (before ++ (tag, .string (.ok spelling)) :: after)).splitTag tag kinds depth
      none [] = .ok (kind, .members (before ++ after)) := by
  have hname : (Node.string (.ok spelling)).readVariantName kinds = .ok kind := by
    simp [Node.readVariantName, lookupVariant, hkind]
  have hlast := @splitTag_pass _ tag kinds depth after [] before.reverse (some kind)
    fun m hm => h m (List.mem_append_right before hm)
  rw [List.append_nil] at hlast
  rw [splitTag_pass fun m hm => h m (List.mem_append_left after hm), List.append_nil,
    Members.ofList, Members.splitTag, if_pos rfl, if_neg (by simp), hname]
  simp only [bind, Except.bind, hlast, Members.ofList, Members.splitTag, List.reverse_append,
    List.reverse_reverse]

theorem takeUp_ofList (h : ∀ n ∈ nodes, n.flaw depth = none) :
    (Items.ofList nodes).takeUp depth = .ok nodes := by
  induction nodes with
  | nil => rfl
  | cons n nodes ih =>
    have hn : takeUp depth n = .ok () := by rw [takeUp, h n List.mem_cons_self]
    have hrest := ih fun m hm => h m (List.mem_cons_of_mem n hm)
    rw [Items.takeUp] at hrest ⊢
    rw [Items.ofList, Items.readAll, hrest]
    simp [hn, bind, Except.bind, pure, Except.pure]

theorem splitTag_items (hkind : kinds.lookup spelling = some kind)
    (h : ∀ n ∈ nodes, n.flaw depth = none) :
    (Items.ofList (.string (.ok spelling) :: nodes)).splitTag tag kinds depth =
      .ok (kind, .items nodes) := by
  have htake := takeUp_ofList h
  simp [Items.ofList, Items.splitTag, Node.readVariantName, lookupVariant, hkind, htake, bind,
    Except.bind, pure, Except.pure]

/-- Whether what stands beside the tag gives the parts of a variant. -/
def Content.Holds (parts : List Part) : Content → Prop
  | .members pairs => ∀ p ∈ parts, p.Due pairs
  | .items nodes => List.Forall₂ Part.Shows parts nodes

theorem exists_part (h : Shown parts known) (hm : m ∈ known) :
    ∃ p ∈ parts, m.1 = p.name ∧ p.Shows m.2 := by
  induction h with
  | nil => cases hm
  | @give p n parts members hn _ ih =>
    obtain rfl | hm := List.mem_cons.1 hm
    · exact ⟨p, List.mem_cons_self, rfl, hn⟩
    · obtain ⟨q, hq, hshows⟩ := ih hm
      exact ⟨q, List.mem_cons_of_mem p hq, hshows⟩
  | @leave p parts members _ _ ih =>
    obtain ⟨q, hq, hshows⟩ := ih hm
    exact ⟨q, List.mem_cons_of_mem p hq, hshows⟩

theorem exists_shown (h : List.Forall₂ Part.Shows parts nodes) (hn : n ∈ nodes) :
    ∃ p ∈ parts, p.Shows n := by
  induction h with
  | nil => cases hn
  | @cons p m parts nodes hm _ ih =>
    obtain rfl | hn := List.mem_cons.1 hn
    · exact ⟨p, List.mem_cons_self, hm⟩
    · obtain ⟨q, hq, hshows⟩ := ih hn
      exact ⟨q, List.mem_cons_of_mem p hq, hshows⟩

/-- The tag is found wherever it stands, and what stands beside it gives the other parts. -/
theorem splitTag_presents (hkind : kinds.lookup spelling = some kind)
    (hnames : (tag :: parts.map Part.name).Nodup)
    (hlight : ∀ p ∈ parts, ∀ n, p.Shows n → n.flaw (depth + 1) = none)
    (h : Presents (.of (tag, some (.string spelling)) :: parts) (Within (depth + 1)) n) :
    ∃ content, n.splitTag family tag kinds depth = .ok (kind, content) ∧ content.Holds parts := by
  rw [List.nodup_cons] at hnames
  cases h with
  | @object known others members hshown hothers hperm =>
    cases hshown with
    | leave ho => cases ho
    | @give p n parts known hn hshown =>
      obtain rfl : n = .string (.ok spelling) := hn
      obtain ⟨before, after, rfl⟩ := List.append_of_mem (hperm.mem_iff.2 List.mem_cons_self)
      have hrest : (before ++ after).Perm (known ++ others) :=
        (List.perm_middle.symm.trans hperm).cons_inv
      refine ⟨.members (before ++ after), ?_, fun p hp => ?_⟩
      · refine splitTag_members hkind fun m hm => ?_
        obtain hm | hm := List.mem_append.1 (hrest.mem_iff.1 hm)
        · obtain ⟨p, hp, hname, hshows⟩ := exists_part hshown hm
          refine ⟨?_, hlight p hp _ hshows⟩
          rintro rfl
          exact hnames.1 (hname ▸ List.mem_map_of_mem hp)
        · obtain ⟨hname, hreadable, hheight⟩ := hothers m hm
          refine ⟨?_, m.2.flaw_of_readable _ hreadable hheight⟩
          rintro rfl
          exact hname List.mem_cons_self
      · exact due_of_shown hshown hnames.2
          (fun m hm hmem => (hothers m hm).1 (List.mem_cons_of_mem _ hmem)) hrest hp
  | array hnodes =>
    cases hnodes with
    | @cons p n parts nodes hn hnodes =>
      obtain rfl : n = .string (.ok spelling) := hn
      refine ⟨.items nodes, @splitTag_items _ _ tag _ _ _ _ hkind fun n hn => ?_, hnodes⟩
      obtain ⟨p, hp, hshows⟩ := exists_shown hnodes hn
      exact hlight p hp n hshows

/-- A tagged value whose members are written with no containers in them. -/
theorem splitTag_written {rows : Rows}
    (htag : rows = (tag, some (.string spelling)) :: rows.tail)
    (hkind : kinds.lookup spelling = some kind) (hnames : ((rows.map Part.of).map Part.name).Nodup)
    (hflat : ∀ m ∈ rows, (m.2.getD .null).node.flaw (depth + 1) = none)
    (h : Presents (rows.map Part.of) (Within (depth + 1)) n) :
    ∃ content, n.splitTag family tag kinds depth = .ok (kind, content) ∧
      content.Holds (rows.tail.map Part.of) := by
  rw [htag, List.map_cons] at h
  rw [htag, List.map_cons, List.map_cons] at hnames
  refine splitTag_presents hkind hnames ?_ h
  rintro p hp n hn
  obtain ⟨m, hm, rfl⟩ := List.mem_map.1 hp
  obtain rfl : n = (m.2.getD .null).node := hn
  exact hflat m (List.mem_of_mem_tail hm)

theorem readVariant_holds (name : String) (hsuits : List.Forall₂ Part.Suits parts fields)
    (hnames : (parts.map Part.name).Nodup) (h : content.Holds parts) :
    ∃ slots, content.readVariant name fields = .ok slots ∧
      List.Forall₂ Part.Filled parts slots := by
  cases content with
  | members pairs => exact fillMembers_due hsuits hnames h
  | items nodes => exact ⟨_, fillItems_eq hsuits h, filled_items h⟩

theorem readEmpty_holds (h : content.Holds []) : content.readEmpty = .ok () := by
  cases content with
  | members pairs => rfl
  | items nodes =>
    cases h
    rfl

theorem Node.readText_string (s : String) : readText (Json.string s).node = .ok s := rfl

theorem Node.readUInt32_number (n : UInt32) : readUInt32 (Json.number n.toNat).node = .ok n := by
  have hn : n.toNat < Nat.pow 2 32 := n.toNat_lt
  simp [readUInt32, node, readNat, hn, Except.map]

variable {key : String} {v : Json}

theorem reads_written (h : read v.node = .ok a) : (Part.of (key, some v)).Reads read a := by
  rintro n rfl
  exact h

/-- An absent value is read from `null`. -/
theorem reads_optional {f : β → Json} {value : Option β} {read : Node → Result β}
    (h : ∀ b, Node.readOption read (f b).node = .ok (some b)) :
    (Part.of (key, value.map f)).Reads (Node.readOption read) value := by
  rintro n rfl
  cases value with
  | none => rfl
  | some b => exact h b

theorem filled_at (h : List.Forall₂ Part.Filled parts slots) (hi : parts[i]? = some p) :
    ∃ slot, slots[i]? = some slot ∧ p.Filled slot := by
  induction h generalizing i with
  | nil => cases hi
  | @cons q slot parts slots hq _ ih =>
    cases i with
    | zero =>
      obtain rfl : q = p := Option.some.inj hi
      exact ⟨slot, rfl, hq⟩
    | succ i => exact ih hi

theorem required_filled (h : List.Forall₂ Part.Filled parts slots) (hi : parts[i]? = some p)
    (hmust : ¬ p.Omissible) (hread : p.Reads read a) : slots.required i name read = .ok a := by
  obtain ⟨slot, hslot, hfilled⟩ := filled_at h hi
  cases slot with
  | none => exact (hmust hfilled).elim
  | some n => simp [Slots.required, hslot, hread n hfilled]

theorem getOr_filled {absent : α} (h : List.Forall₂ Part.Filled parts slots)
    (hi : parts[i]? = some p) (habsent : p.Omissible → a = absent) (hread : p.Reads read a) :
    slots.getOr i absent read = .ok a := by
  obtain ⟨slot, hslot, hfilled⟩ := filled_at h hi
  cases slot with
  | none => simp [Slots.getOr, hslot, habsent hfilled]
  | some n => simp [Slots.getOr, hslot, hread n hfilled]

theorem required_written (h : List.Forall₂ Part.Filled parts slots)
    (hi : parts[i]? = some (.of (key, some v))) (hread : read v.node = .ok a) :
    slots.required i name read = .ok a :=
  required_filled h hi (Option.some_ne_none v) (reads_written hread)

theorem getOr_written {absent : α} (h : List.Forall₂ Part.Filled parts slots)
    (hi : parts[i]? = some (.of (key, some v))) (hread : read v.node = .ok a) :
    slots.getOr i absent read = .ok a :=
  getOr_filled h hi (fun ho => (Option.some_ne_none v ho).elim) (reads_written hread)

theorem getOr_optional {f : β → Json} {value : Option β} {read : Node → Result β}
    (h : List.Forall₂ Part.Filled parts slots) (hi : parts[i]? = some (.of (key, value.map f)))
    (hread : ∀ b, Node.readOption read (f b).node = .ok (some b)) :
    slots.getOr i none (Node.readOption read) = .ok value :=
  getOr_filled h hi Option.map_eq_none_iff.1 (reads_optional hread)

/-- Whether a value is decoded from every text that presents it, blanks and all. Its compact form
and its array form are among these. -/
structure Independent (decode : Bytes → Result α) (compact positional : α → Json)
    (Shows : α → Node → Prop) : Prop where
  compact : ∀ a, decode (compact a).render = .ok a
  positional : ∀ a, decode (positional a).render = .ok a
  text : ∀ (a : α) (n : Node) (before s after : Bytes), Shows a n → Spelt s n → Blank before →
    Blank after → decode (before ++ (s ++ after)) = .ok a

/-- What is decoded from the value that a text spells does not depend on the text. -/
theorem independent_of_read {compact positional : α → Json} {Shows : α → Node → Prop}
    (hread : ∀ a n, Shows a n → n.blocked = none → read n = .ok a)
    (hcompact : ∀ a, Fits (compact a) ∧ Shows a (compact a).node)
    (hpositional : ∀ a, Fits (positional a) ∧ Shows a (positional a).node) :
    Independent (decode read) compact positional Shows where
  compact a :=
    decode_render _ (hcompact a).1
      (hread a _ (hcompact a).2 (spelt_render _ (hcompact a).1).unblocked)
  positional a :=
    decode_render _ (hpositional a).1
      (hread a _ (hpositional a).2 (spelt_render _ (hpositional a).1).unblocked)
  text a n _ _ _ hshows hs hb ha := decode_spelt hb hs ha (hread a n hshows hs.unblocked)

theorem independent_of_rows {rows : α → Rows} {compact : α → Json}
    (hcompact : ∀ a, compact a = (rows a).compact) (hfit : ∀ a, (rows a).Fit)
    (hread : ∀ a n, Presents ((rows a).map Part.of) Harmless n → n.blocked = none →
      read n = .ok a) :
    Independent (decode read) compact (fun a => (rows a).positional)
      fun a n => Presents ((rows a).map Part.of) Harmless n := by
  refine independent_of_read hread (fun a => ?_) fun a => ?_
  · rw [hcompact a]
    exact ⟨(hfit a).compact, presents_compact⟩
  · exact ⟨(hfit a).positional, presents_positional⟩

end SpaceGateway.Json
