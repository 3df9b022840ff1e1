import SpaceGateway.Json.Record
/-!
Values whose kind is told by a tag among their own members: an object with the tag anywhere, or an
array that begins with it. The tag may come last, so the other members are taken up whole and read
once the kind is known.
-/
namespace SpaceGateway.Json

/-- The members beside the tag, as they were taken up. -/
inductive Content
  | members (pairs : List (String × Node))
  | items (nodes : List Node)

/-- A fault of a value taken up whole stops the reading. -/
def takeUp (depth : Nat) (n : Node) : Result Unit :=
  match n.flaw depth with
  | none => .ok ()
  | some f => .text f

/-- Splits an object into the kind that its tag names and the other members. -/
def Members.splitTag {α : Type} (tag : String) (kinds : List (String × α)) (depth : Nat) :
    Members → Option α → List (String × Node) → Result (α × Content)
  | .close, some kind, done => .ok (kind, .members done.reverse)
  | .close, none, _ => .data (.missingField tag)
  | .member (.error f) _ _, _, _ => .text f
  | .member (.ok key) value rest, kind, done =>
    if key = tag then
      if kind.isSome then .data (.duplicateField tag)
      else do
        let k ← value.readVariantName kinds
        rest.splitTag tag kinds depth (some k) done
    else do
      takeUp depth value
      rest.splitTag tag kinds depth kind ((key, value) :: done)
  | .keyOnly (.error f) _, _, _ => .text f
  | .keyOnly (.ok key) f, kind, _ =>
    if key = tag && kind.isSome then .data (.duplicateField tag) else .text f
  | .brokenKey f _, _, _ => .text f
  | .notKey, _, _ => .text .keyNotString
  | .ended afterComma, _, _ => .text (if afterComma then .endInValue else .endInObject)
  | .unseparated, _, _ => .text .noObjectSeparator
  | .trailingComma, _, _ => .text .trailingComma

/-- The items after the tag of an array. -/
def Items.takeUp (depth : Nat) (items : Items) : Result (List Node) :=
  items.readAll fun n => do
    Json.takeUp depth n
    return n

/-- Splits an array into the kind that its first item names and the other items. -/
def Items.splitTag {α : Type} (tag : String) (kinds : List (String × α)) (depth : Nat) :
    Items → Result (α × Content)
  | .close => .data (.missingField tag)
  | .item value rest => do
    let kind ← value.readVariantName kinds
    return (kind, .items (← rest.takeUp depth))
  | .ended => .text .endInArray
  | .unseparated => .text .noArraySeparator
  | .trailingComma => .text .trailingComma

/-- The kind of a tagged value of the family `name` inside `depth` containers, and its other
members. -/
def Node.splitTag {α : Type} (name tag : String) (kinds : List (String × α)) (depth : Nat) :
    Node → Result (α × Content)
  | .object members => members.splitTag tag kinds (depth + 1) none []
  | .array items => items.splitTag tag kinds (depth + 1)
  | n => n.wrongType ("internally tagged enum " ++ name)

namespace Content

/-- Fills the slots from members taken up. -/
def fillMembers (fields : List Field) : Slots → List (String × Node) → Result Slots
  | slots, [] => .ok slots
  | slots, (key, value) :: rest => do
    match ← claim fields key slots with
    | some (field, i) =>
      field.accepts value
      fillMembers fields (slots.set i (some value)) rest
    | none => fillMembers fields slots rest

/-- Fills the slots from items taken up; `length` is their number. -/
def fillItems (wanted : String) (length total position : Nat) :
    List Field → List Node → Result Slots
  | [], [] => .ok []
  | [], _ :: _ => .data (.wrongLength length (elements total ++ " in sequence"))
  | _ :: _, [] => .data (.wrongLength position wanted)
  | field :: fields, value :: rest => do
    field.accepts value
    return some value :: (← fillItems wanted length total (position + 1) fields rest)

/-- The slots of a variant, named in full, with these fields. -/
def readVariant (name : String) (fields : List Field) : Content → Result Slots
  | members pairs => fillMembers fields (fields.map fun _ => none) pairs
  | items nodes =>
    fillItems ("struct variant " ++ name ++ " with " ++ elements fields.length) nodes.length
      fields.length 0 fields nodes

/-- A variant without members of its own. Other members are nobody's, other items are too many. -/
def readEmpty : Content → Result Unit
  | members _ => .ok ()
  | items [] => .ok ()
  | items nodes => .data (.wrongLength nodes.length (elements 0 ++ " in sequence"))

end Content
end SpaceGateway.Json
