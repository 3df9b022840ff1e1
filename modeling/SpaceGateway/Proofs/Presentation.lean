import Mathlib.Data.List.Forall2
import SpaceGateway.Json.Tagged
import SpaceGateway.Proofs.Reading
/-!
The ways to present a record. An object gives the members in any order, may leave out those that
are absent, and may hold other members. An array gives all of them in the order of declaration.
-/
namespace SpaceGateway.Json

/-- The rest of an array with these items. -/
def Items.ofList : List Node → Items
  | [] => .close
  | n :: rest => .item n (ofList rest)

/-- The rest of an object with these members. -/
def Members.ofList : List (String × Node) → Members
  | [] => .close
  | (key, n) :: rest => .member (.ok key) n (ofList rest)

/-- A member of a record. -/
structure Part where
  name : String
  /-- Whether a node shows the member's value. -/
  Shows : Node → Prop
  /-- Whether an object may leave the member out. -/
  Omissible : Prop

/-- A member and the value that is written for it, if any. An absent value is shown by `null`. -/
def Part.of (m : String × Option Json) : Part :=
  ⟨m.1, fun n => n = (m.2.getD .null).node, m.2 = none⟩

/-- The members that show the parts of a record, but for some that may be left out. -/
inductive Shown : List Part → List (String × Node) → Prop
  | nil : Shown [] []
  | give {p : Part} {n : Node} {parts : List Part} {members : List (String × Node)} :
      p.Shows n → Shown parts members → Shown (p :: parts) ((p.name, n) :: members)
  | leave {p : Part} {parts : List Part} {members : List (String × Node)} :
      p.Omissible → Shown parts members → Shown (p :: parts) members

/-- Whether a node presents the record with these parts. The other members of an object have names
of their own and values that are harmless. -/
inductive Presents (parts : List Part) (Harmless : Node → Prop) : Node → Prop
  | object {known others members : List (String × Node)} : Shown parts known →
      (∀ m ∈ others, m.1 ∉ parts.map Part.name ∧ Harmless m.2) → members.Perm (known ++ others) →
      Presents parts Harmless (.object (.ofList members))
  | array {nodes : List Node} : List.Forall₂ Part.Shows parts nodes →
      Presents parts Harmless (.array (.ofList nodes))

/-- A record as it is written: its members in the order of declaration, each with its value unless
that is absent. -/
abbrev Rows := List (String × Option Json)

/-- The compact form of a record leaves out what is absent. -/
def Rows.compact (rows : Rows) : Json :=
  .object (rows.filterMap fun m => m.2.map (m.1, ·))

/-- The array form of a record has `null` for what is absent. -/
def Rows.positional (rows : Rows) : Json := .array (rows.map fun m => m.2.getD .null)

variable {rows : Rows} {Harmless : Node → Prop}

theorem nodes_eq (items : List Json) : nodes items = .ofList (items.map node) := by
  induction items with
  | nil => rfl
  | cons v items ih => rw [nodes, ih, List.map_cons, Items.ofList]

theorem memberNodes_eq (members : List (String × Json)) :
    memberNodes members = .ofList (members.map fun m => (m.1, m.2.node)) := by
  induction members with
  | nil => rfl
  | cons m members ih => rw [memberNodes, ih, List.map_cons, Members.ofList]

theorem shown_compact (rows : Rows) : Shown (rows.map Part.of)
    ((rows.filterMap fun m => m.2.map (m.1, ·)).map fun m => (m.1, m.2.node)) := by
  induction rows with
  | nil => exact .nil
  | cons m rows ih =>
    obtain ⟨key, value⟩ := m
    cases value with
    | none => exact .leave rfl ih
    | some v => exact .give rfl ih

/-- An object of just the members that show a record presents it. -/
theorem presents_shown {parts : List Part} {known : List (String × Node)}
    (h : Shown parts known) : Presents parts Harmless (.object (.ofList known)) := by
  refine @Presents.object _ _ known [] known h (by simp) ?_
  rw [List.append_nil]

theorem presents_compact : Presents (rows.map Part.of) Harmless rows.compact.node := by
  rw [Rows.compact, node, memberNodes_eq]
  exact presents_shown (shown_compact rows)

theorem presents_positional : Presents (rows.map Part.of) Harmless rows.positional.node := by
  rw [Rows.positional, node, nodes_eq]
  refine .array ?_
  rw [List.map_map, List.forall₂_map_left_iff, List.forall₂_map_right_iff, List.forall₂_same]
  exact fun _ _ => rfl

/-- Whether all numbers in a record fit 64 bits. -/
def Rows.Fit (rows : Rows) : Prop := ∀ m ∈ rows, Fits (m.2.getD .null)

theorem Rows.Fit.compact (h : rows.Fit) : Fits rows.compact := by
  rw [Rows.compact, Fits]
  induction rows with
  | nil => trivial
  | cons m rows ih =>
    have hrest := ih fun d hd => h d (List.mem_cons_of_mem m hd)
    have hm := h m List.mem_cons_self
    obtain ⟨key, value⟩ := m
    cases value with
    | none => exact hrest
    | some v => exact ⟨hm, hrest⟩

theorem Rows.Fit.positional (h : rows.Fit) : Fits rows.positional := by
  rw [Rows.positional, Fits]
  induction rows with
  | nil => trivial
  | cons m rows ih =>
    exact ⟨h m List.mem_cons_self, ih fun d hd => h d (List.mem_cons_of_mem m hd)⟩

mutual
/-- Whether all numbers and texts in a value can be had. A number that binary64 cannot hold, or a
surrogate without its pair, is a fault of the text. -/
def Node.Readable : Node → Prop
  | .null | .bool _ => True
  | .number value => ∃ v, value = .ok v
  | .string content => ∃ s, content = .ok s
  | .array items => items.Readable
  | .object members => members.Readable
  | .ended | .stray | .brokenNull _ | .brokenBool _ | .brokenNumber _ | .brokenString _ _ => False

def Items.Readable : Items → Prop
  | .close => True
  | .item n rest => n.Readable ∧ rest.Readable
  | .ended | .unseparated | .trailingComma => False

def Members.Readable : Members → Prop
  | .close => True
  | .member key n rest => (∃ s, key = .ok s) ∧ n.Readable ∧ rest.Readable
  | .keyOnly _ _ | .brokenKey _ _ | .notKey | .ended _ | .unseparated | .trailingComma => False
end

mutual
/-- How deep containers nest in a value. -/
def Node.height : Node → Nat
  | .array items => items.height + 1
  | .object members => members.height + 1
  | _ => 0

def Items.height : Items → Nat
  | .item n rest => max n.height rest.height
  | _ => 0

def Members.height : Members → Nat
  | .member _ n rest => max n.height rest.height
  | _ => 0
end

/-- Whether a value is readable and, inside `depth` containers, does not nest too deep. -/
def Within (depth : Nat) (n : Node) : Prop := n.Readable ∧ depth + n.height ≤ maxDepth

mutual
theorem Node.flaw_of_readable : ∀ (n : Node) (depth : Nat), n.Readable →
    depth + n.height ≤ maxDepth → n.flaw depth = none
  | .null, _, _, _ | .bool _, _, _, _ => rfl
  | .number _, _, ⟨_, hv⟩, _ => by rw [hv, Node.flaw]
  | .string _, _, ⟨_, hs⟩, _ => by rw [hs, Node.flaw]
  | .array items, depth, h, hd => by
    rw [Node.height] at hd
    rw [Node.flaw, if_pos (by omega), items.flaw_of_readable (depth + 1) h (by omega)]
  | .object members, depth, h, hd => by
    rw [Node.height] at hd
    rw [Node.flaw, if_pos (by omega), members.flaw_of_readable (depth + 1) h (by omega)]

theorem Items.flaw_of_readable : ∀ (items : Items) (depth : Nat), items.Readable →
    depth + items.height ≤ maxDepth → items.flaw depth = none
  | .close, _, _, _ => rfl
  | .item n rest, depth, ⟨hn, hrest⟩, hd => by
    rw [Items.height] at hd
    rw [Items.flaw, n.flaw_of_readable depth hn (by omega),
      rest.flaw_of_readable depth hrest (by omega)]
    rfl

theorem Members.flaw_of_readable : ∀ (members : Members) (depth : Nat), members.Readable →
    depth + members.height ≤ maxDepth → members.flaw depth = none
  | .close, _, _, _ => rfl
  | .member _ n rest, depth, ⟨⟨_, hkey⟩, hn, hrest⟩, hd => by
    rw [Members.height] at hd
    rw [hkey, Members.flaw, n.flaw_of_readable depth hn (by omega),
      rest.flaw_of_readable depth hrest (by omega)]
    rfl
end

end SpaceGateway.Json
