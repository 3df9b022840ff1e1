import SpaceGateway.Json.Node
/-!
Reading typed values from a JSON text. Each reader meets the text from left to right and reports
the first problem, so a reader that succeeds has seen its value whole.
-/
namespace SpaceGateway.Json

abbrev Result := Except Fault

def Result.text {α : Type} (f : SyntaxFault) : Result α := .error (.text f)
def Result.data {α : Type} (f : DataFault) : Result α := .error (.data f)

namespace Node

/-- What kind of value stands here, if the text holds one at all. -/
def found : Node → Except SyntaxFault Found
  | .null => .ok .null
  | .bool b => .ok (.bool b)
  | .number value => value.map Number.found
  | .string content => content.map .string
  | .array _ => .ok .array
  | .object _ => .ok .object
  | .ended => .error .endInValue
  | .stray => .error .noValue
  | .brokenNull f | .brokenBool f | .brokenNumber f => .error f
  | .brokenString f _ => .error f

/-- The fault of a value of another kind than the wanted one. -/
def wrongType {α : Type} (wanted : String) (n : Node) : Result α :=
  match n.found with
  | .error f => .text f
  | .ok f => .data (.wrongType f wanted)

def readText : Node → Result String
  | .string (.ok s) => .ok s
  | n => n.wrongType "a string"

def readBool : Node → Result Bool
  | .bool b => .ok b
  | n => n.wrongType "a boolean"

/-- A natural number below `limit`; `kind` names the numbers that are. -/
def readNat (kind : String) (limit : Nat) : Node → Result Nat
  | .number (.ok (.natural n)) =>
    if n < limit then .ok n else .data (.wrongValue (.integer n) kind)
  | .number (.ok (.negative n)) => .data (.wrongValue (.integer (-n)) kind)
  | n => n.wrongType kind

def readUInt16 (n : Node) : Result UInt16 := (n.readNat "u16" (Nat.pow 2 16)).map Nat.toUInt16
def readUInt32 (n : Node) : Result UInt32 := (n.readNat "u32" (Nat.pow 2 32)).map Nat.toUInt32
def readUInt64 (n : Node) : Result UInt64 := (n.readNat "usize" (Nat.pow 2 64)).map Nat.toUInt64

/-- `null` stands for an absent value. -/
def readOption {α : Type} (read : Node → Result α) : Node → Result (Option α)
  | .null => .ok none
  | .brokenNull f => .text f
  | n => (read n).map some

end Node

/-- The items of an array, each read in turn. -/
def Items.readAll {α : Type} (read : Node → Result α) : Items → Result (List α)
  | .close => .ok []
  | .item v rest => do return (← read v) :: (← rest.readAll read)
  | .ended => .text .endInArray
  | .unseparated => .text .noArraySeparator
  | .trailingComma => .text .trailingComma

/-- A list of values. -/
def Node.readList {α : Type} (read : Node → Result α) : Node → Result (List α)
  | .array items => items.readAll read
  | n => n.wrongType "a sequence"

mutual
/-- The fault that keeps a value from being passed over. A value that nobody wants need not be
readable, only well formed. -/
def Node.blocked : Node → Option SyntaxFault
  | .array items => items.blocked
  | .object members => members.blocked
  | .ended => some .endInValue
  | .stray => some .noValue
  | .brokenNull f | .brokenBool f => some f
  | .brokenNumber _ => some .badNumber
  | .brokenString _ f => some f
  | _ => none

def Items.blocked : Items → Option SyntaxFault
  | .close => none
  | .item v rest => v.blocked <|> rest.blocked
  | .ended => some .endInArray
  | .unseparated => some .noArraySeparator
  | .trailingComma => some .noValue

def Members.blocked : Members → Option SyntaxFault
  | .close => none
  | .member _ v rest => v.blocked <|> rest.blocked
  | .keyOnly _ f => some f
  | .brokenKey _ f => some f
  | .notKey => some .keyNotString
  | .ended _ => some .endInObject
  | .unseparated => some .noObjectSeparator
  | .trailingComma => some .keyNotString
end

def Node.skip (n : Node) : Result Unit :=
  match n.blocked with
  | none => .ok ()
  | some f => .text f

/-- The number of containers that may stand inside one another. -/
def maxDepth : Nat := 127

mutual
/-- The first fault of a value inside `depth` containers, when it is taken up whole before anyone knows
what to make of it. Every part of it must be readable. -/
def Node.flaw (depth : Nat) : Node → Option SyntaxFault
  | .null | .bool _ => none
  | .number (.ok _) | .string (.ok _) => none
  | .number (.error f) | .string (.error f) => some f
  | .array items => if depth < maxDepth then items.flaw (depth + 1) else some .tooDeep
  | .object members => if depth < maxDepth then members.flaw (depth + 1) else some .tooDeep
  | .ended => some .endInValue
  | .stray => some .noValue
  | .brokenNull f | .brokenBool f | .brokenNumber f => some f
  | .brokenString f _ => some f

def Items.flaw (depth : Nat) : Items → Option SyntaxFault
  | .close => none
  | .item v rest => v.flaw depth <|> rest.flaw depth
  | .ended => some .endInArray
  | .unseparated => some .noArraySeparator
  | .trailingComma => some .trailingComma

def Members.flaw (depth : Nat) : Members → Option SyntaxFault
  | .close => none
  | .member (.error f) _ _ => some f
  | .member (.ok _) v rest => v.flaw depth <|> rest.flaw depth
  | .keyOnly (.error f) _ => some f
  | .keyOnly (.ok _) f => some f
  | .brokenKey f _ => some f
  | .notKey => some .keyNotString
  | .ended afterComma => some (if afterComma then .endInValue else .endInObject)
  | .unseparated => some .noObjectSeparator
  | .trailingComma => some .trailingComma
end

/-- Nothing but blanks may follow a value. -/
def onlySpace (s : Bytes) : Result Unit :=
  if (skipSpace s).isEmpty then .ok () else .text .trailingText

/-- Reads a whole text. The value's own problems come before those of what follows it. -/
def decode {α : Type} (read : Node → Result α) (s : Bytes) : Result α := do
  let (node, rest) := scan s
  let value ← read node
  onlySpace rest
  return value

end SpaceGateway.Json
