import SpaceGateway.Json.Decode
/-!
Values that are one of a few named variants: a string, or an object whose single member has the
variant as its key.
-/
namespace SpaceGateway.Json

/-- The variant with this spelling. -/
def lookupVariant {α : Type} (variants : List (String × α)) (name : String) : Result α :=
  match variants.lookup name with
  | some a => .ok a
  | none => .data (.unknownVariant name (variants.map (·.1)))

namespace Node

/-- The value of a variant that carries nothing. -/
def readNull : Node → Result Unit
  | .null => .ok ()
  | n => n.wrongType "unit"

/-- The name of a variant, wherever one must stand. -/
def readVariantName {α : Type} (variants : List (String × α)) : Node → Result α
  | .string (.ok s) => lookupVariant variants s
  | n => n.wrongType "variant identifier"

end Node

/-- What may follow the single member of a variant's object. -/
def Members.onlyClose : Members → Result Unit
  | .close => .ok ()
  | .ended false => .text .endInObject
  | _ => .text .noValue

/-- The single member of a variant's object: the variant, and its value by `read`. Its key must be
a string, whatever else the text says. -/
def Members.readVariant {α β : Type} (variants : List (String × α)) (read : α → Node → Result β) :
    Members → Result β
  | .member (.ok key) value rest => do
    let v ← lookupVariant variants key
    let b ← read v value
    rest.onlyClose
    return b
  | .member (.error f) _ _ => .text f
  | .keyOnly (.ok key) f => do
    let _ ← lookupVariant variants key
    .text f
  | .keyOnly (.error f) _ => .text f
  | .brokenKey f _ => .text f
  | .notKey | .close => .text .keyNotString
  | .ended _ => .text .endInValue
  | .unseparated | .trailingComma => .text .noValue

/-- A variant: its bare name by `bare`, or a member with its value by `read`. -/
def Node.readVariant {α β : Type} (variants : List (String × α)) (bare : α → Result β)
    (read : α → Node → Result β) : Node → Result β
  | .string (.ok s) => do bare (← lookupVariant variants s)
  | .string (.error f) => .text f
  | .object members => members.readVariant variants read
  | .ended => .text .endInValue
  | .brokenString f _ => .text f
  | _ => .text .noValue

/-- A variant that carries nothing. -/
def Node.readPlain {α : Type} (variants : List (String × α)) (n : Node) : Result α :=
  n.readVariant variants .ok fun a value => do
    value.readNull
    return a

/-- The value of a variant that carries nothing, when it was taken up whole; an empty object does as
well. -/
def Node.takeNull : Node → Result Unit
  | .object .close => .ok ()
  | n => n.readNull

/-- A variant that carries nothing, from a value taken up whole. -/
def Node.takePlain {α : Type} (variants : List (String × α)) : Node → Result α
  | .string (.ok s) => lookupVariant variants s
  | .object (.member (.ok key) value .close) => do
    let a ← lookupVariant variants key
    value.takeNull
    return a
  | .object _ => .data (.wrongValue .object "map with a single key")
  | n => n.wrongType "string or map"

end SpaceGateway.Json
