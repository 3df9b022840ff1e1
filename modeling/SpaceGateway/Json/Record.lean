import SpaceGateway.Json.Variant
/-!
Records: objects with known members, in any order and among others, or arrays of the members in
the order of their declaration. A record is read into one slot a member; the slot holds the
member's value, which its own reader has accepted.
-/
namespace SpaceGateway.Json

/-- A member of a record. -/
structure Field where
  name : String
  /-- Whether the member's value is one, and else its first problem. -/
  accepts : Node → Result Unit
  /-- Whether an array may end before this member. -/
  omissible : Bool

/-- A member whose values `read` understands. -/
def Field.of {α : Type} (name : String) (read : Node → Result α) : Field :=
  ⟨name, fun n => (read n).map fun _ => (), false⟩

/-- The same member, with a default for arrays that end before it. -/
def Field.orDefault (f : Field) : Field := { f with omissible := true }

/-- The values of a record's members, in the order of declaration. -/
abbrev Slots := List (Option Node)

namespace Slots

/-- A member that must be present. -/
def required {α : Type} (slots : Slots) (i : Nat) (name : String) (read : Node → Result α) :
    Result α :=
  match slots[i]?.join with
  | some n => read n
  | none => .data (.missingField name)

/-- A member that has a value of its own when it is absent. -/
def getOr {α : Type} (slots : Slots) (i : Nat) (absent : α) (read : Node → Result α) : Result α :=
  match slots[i]?.join with
  | some n => read n
  | none => .ok absent

end Slots

/-- Puts a value into the slot of the field with this name. Nothing is done about other names;
a slot that is taken is a fault. -/
def claim (fields : List Field) (key : String) (slots : Slots) : Result (Option (Field × Nat)) :=
  match fields.findIdx? (·.name == key) with
  | none => .ok none
  | some i =>
    if (slots[i]?.join).isSome then .data (.duplicateField key)
    else .ok (fields[i]?.map (·, i))

/-- Fills the slots from an object. -/
def Members.fill (fields : List Field) (slots : Slots) : Members → Result Slots
  | .close => .ok slots
  | .member (.error f) _ _ => .text f
  | .member (.ok key) value rest => do
    match ← claim fields key slots with
    | some (field, i) =>
      field.accepts value
      rest.fill fields (slots.set i (some value))
    | none =>
      value.skip
      rest.fill fields slots
  | .keyOnly (.error f) _ => .text f
  | .keyOnly (.ok key) f => do
    let _ ← claim fields key slots
    .text f
  | .brokenKey f _ => .text f
  | .notKey => .text .keyNotString
  | .ended afterComma => .text (if afterComma then .endInValue else .endInObject)
  | .unseparated => .text .noObjectSeparator
  | .trailingComma => .text .trailingComma

/-- What may follow the last member of a record in array form. -/
def Items.onlyClose : Items → Result Unit
  | .close => .ok ()
  | .ended => .text .endInArray
  | .trailingComma => .text .trailingComma
  | .item _ _ | .unseparated => .text .trailingText

/-- Fills the slots from an array, `position` members being filled. -/
def Items.fill (wanted : String) (position : Nat) : List Field → Items → Result Slots
  | [], items => do
    items.onlyClose
    return []
  | field :: fields, .close =>
    if field.omissible then do return none :: (← Items.fill wanted (position + 1) fields .close)
    else .data (.wrongLength position wanted)
  | field :: fields, .item value rest => do
    field.accepts value
    return some value :: (← Items.fill wanted (position + 1) fields rest)
  | _ :: _, .ended => .text .endInArray
  | _ :: _, .unseparated => .text .noArraySeparator
  | _ :: _, .trailingComma => .text .trailingComma

/-- A number of elements, in words. -/
def elements (n : Nat) : String := toString n ++ if n = 1 then " element" else " elements"

/-- Reads a record by its name and its fields. -/
def Node.readRecord (name : String) (fields : List Field) : Node → Result Slots
  | .object members => members.fill fields (fields.map fun _ => none)
  | .array items =>
    items.fill ("struct " ++ name ++ " with " ++ elements fields.length) 0 fields
  | n => n.wrongType ("struct " ++ name)

end SpaceGateway.Json
