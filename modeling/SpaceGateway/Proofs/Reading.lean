import SpaceGateway.Proofs.Grammar
/-!
A value that is written compactly is a text of the grammar, and is read back part by part.
-/
namespace SpaceGateway.Json

mutual
/-- As what a written value is read. -/
def node : Json → Node
  | .null => .null
  | .bool b => .bool b
  | .number n => .number (.ok (.natural n))
  | .string s => .string (.ok s)
  | .array items => .array (nodes items)
  | .object members => .object (memberNodes members)

def nodes : List Json → Items
  | [] => .close
  | v :: rest => .item (node v) (nodes rest)

def memberNodes : List (String × Json) → Members
  | [] => .close
  | (key, v) :: rest => .member (.ok key) (node v) (memberNodes rest)
end

mutual
/-- Whether all numbers in a value fit 64 bits. -/
def Fits : Json → Prop
  | .null | .bool _ | .string _ => True
  | .number n => n < Nat.pow 2 64
  | .array items => FitAll items
  | .object members => FitMembers members

def FitAll : List Json → Prop
  | [] => True
  | v :: rest => Fits v ∧ FitAll rest

def FitMembers : List (String × Json) → Prop
  | [] => True
  | (_, v) :: rest => Fits v ∧ FitMembers rest
end

theorem renderItems_cons (v w : Json) (rest : List Json) :
    renderItems (v :: w :: rest) = render v ++ 44 :: renderItems (w :: rest) := by
  rw [renderItems]
  exact List.cons_ne_nil _ _

theorem renderMembers_cons (key : String) (v : Json) (m : String × Json)
    (rest : List (String × Json)) :
    renderMembers ((key, v) :: m :: rest) =
      quoted key ++ 58 :: (render v ++ 44 :: renderMembers (m :: rest)) := by
  rw [renderMembers]
  exact List.cons_ne_nil _ _

/-- A member without blanks. -/
theorem spelt_member {key : String} {s : Bytes} {n : Node} (h : Spelt s n) :
    SpeltMembers (quoted key ++ 58 :: (s ++ [125])) (.member (.ok key) n .close) := by
  have hm := SpeltMembers.last blank_nil (inside_escape (utf8 key)) blank_nil blank_nil h blank_nil
  simpa [quoted, readQuoted_escape] using hm

theorem spelt_member_more {key : String} {s t : Bytes} {n : Node} {members : Members}
    (h : Spelt s n) (ht : SpeltMembers t members) :
    SpeltMembers (quoted key ++ 58 :: (s ++ 44 :: t)) (.member (.ok key) n members) := by
  have hm :=
    SpeltMembers.more blank_nil (inside_escape (utf8 key)) blank_nil blank_nil h blank_nil ht
  simpa [quoted, readQuoted_escape] using hm

mutual
/-- A written value is a text of the grammar. -/
theorem spelt_render : ∀ v : Json, Fits v → Spelt (render v) (node v)
  | .null, _ => .null
  | .bool true, _ => .yes
  | .bool false, _ => .no
  | .number n, h => by
    have hn := Spelt.number (numeral_decimal n)
    rwa [value_decimal h] at hn
  | .string s, _ => by
    have hs := Spelt.string (inside_escape (utf8 s))
    rwa [readQuoted_escape] at hs
  | .array [], _ => .emptyArray blank_nil
  | .array (v :: rest), h => .array (spelt_renderItems (v :: rest) (List.cons_ne_nil v rest) h)
  | .object [], _ => .emptyObject blank_nil
  | .object (m :: rest), h =>
    .object (spelt_renderMembers (m :: rest) (List.cons_ne_nil m rest) h)

theorem spelt_renderItems : ∀ items : List Json, items ≠ [] → FitAll items →
    SpeltItems (renderItems items ++ [93]) (nodes items)
  | [], h, _ => (h rfl).elim
  | [v], _, h => .last blank_nil (spelt_render v h.1) blank_nil
  | v :: w :: rest, _, h => by
    have hrest := spelt_renderItems (w :: rest) (List.cons_ne_nil w rest) h.2
    rw [renderItems_cons, List.append_assoc]
    exact .more blank_nil (spelt_render v h.1) blank_nil hrest

theorem spelt_renderMembers : ∀ members : List (String × Json), members ≠ [] →
    FitMembers members → SpeltMembers (renderMembers members ++ [125]) (memberNodes members)
  | [], h, _ => (h rfl).elim
  | [(key, v)], _, h => by
    rw [renderMembers, List.append_assoc]
    exact spelt_member (spelt_render v h.1)
  | (key, v) :: m :: rest, _, h => by
    have hrest := spelt_renderMembers (m :: rest) (List.cons_ne_nil m rest) h.2
    rw [renderMembers_cons, List.append_assoc, List.cons_append, List.append_assoc]
    exact spelt_member_more (spelt_render v h.1) hrest
end

/-- A written value is read back as what it is. -/
theorem decode_render {α : Type} {read : Node → Result α} {a : α} (v : Json) (hv : Fits v)
    (hread : read (node v) = .ok a) : decode read (render v) = .ok a := by
  have h := decode_spelt blank_nil (spelt_render v hv) blank_nil hread
  rwa [List.nil_append, List.append_nil] at h

end SpaceGateway.Json
