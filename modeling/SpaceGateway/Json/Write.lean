import SpaceGateway.Json.Quoted
/-!
JSON values as this library writes them: compactly, with the members of an object in the order
given.
-/
namespace SpaceGateway

inductive Json where
  | null
  | bool (b : Bool)
  | number (n : Nat)
  | string (s : String)
  | array (items : List Json)
  | object (members : List (String × Json))

namespace Json

/-- The decimal digits of a number, in front of `done`. -/
def decimalOnto : Nat → Nat → Bytes → Bytes
  | 0, _, done => done
  | fuel + 1, n, done =>
    let done := (48 + n % 10).toUInt8 :: done
    if n < 10 then done else decimalOnto fuel (n / 10) done

/-- The decimal digits of a number. -/
def decimal (n : Nat) : Bytes := decimalOnto (n + 1) n []

/-- A string literal. -/
def quoted (s : String) : Bytes := 34 :: (escape (utf8 s) ++ [34])

mutual
/-- The text of a value, as bytes. -/
def render : Json → Bytes
  | .null => utf8 "null"
  | .bool b => utf8 (if b then "true" else "false")
  | .number n => decimal n
  | .string s => quoted s
  | .array items => 91 :: (renderItems items ++ [93])
  | .object members => 123 :: (renderMembers members ++ [125])

def renderItems : List Json → Bytes
  | [] => []
  | [v] => render v
  | v :: rest => render v ++ 44 :: renderItems rest

def renderMembers : List (String × Json) → Bytes
  | [] => []
  | [(key, v)] => quoted key ++ 58 :: render v
  | (key, v) :: rest => quoted key ++ 58 :: (render v ++ 44 :: renderMembers rest)
end

/-- The text of a value. -/
def toText (v : Json) : String := (text? v.render).getD ""

end Json
end SpaceGateway
