import SpaceGateway.Json.Quoted
/-!
A JSON text as it reads from left to right, down to the place where it goes wrong. A fault that
matters only to who wants the value, such as a number out of range, stays with that value; one
that ends the reading is a node of its own, and nothing stands after it. So the first problem of a
text is met in the order of the text, whether it lies in the syntax or in the data.
-/
namespace SpaceGateway.Json

mutual
/-- What stands where a value was due. -/
inductive Node where
  | null
  | bool (b : Bool)
  | number (value : Except SyntaxFault Number)
  | string (content : Except SyntaxFault String)
  | array (items : Items)
  | object (members : Members)
  /-- The text ended. -/
  | ended
  /-- No value begins like this. -/
  | stray
  /-- A misspelt `null`. -/
  | brokenNull (fault : SyntaxFault)
  /-- A misspelt `true` or `false`. -/
  | brokenBool (fault : SyntaxFault)
  | brokenNumber (fault : SyntaxFault)
  /-- A literal without an end, as a strict reader sees it and as one that skips it does. -/
  | brokenString (strict skipping : SyntaxFault)

/-- The rest of an array. -/
inductive Items where
  | close
  | item (value : Node) (rest : Items)
  /-- The text ended where a separator or the bracket was due. -/
  | ended
  /-- Something else stood there. -/
  | unseparated
  /-- A comma, and then the bracket. -/
  | trailingComma

/-- The rest of an object. -/
inductive Members where
  | close
  | member (key : Except SyntaxFault String) (value : Node) (rest : Members)
  /-- No colon followed the key. -/
  | keyOnly (key : Except SyntaxFault String) (fault : SyntaxFault)
  | brokenKey (strict skipping : SyntaxFault)
  /-- Something else than a string stood where a key was due. -/
  | notKey
  /-- The text ended where a key, a separator or the brace was due. -/
  | ended (afterComma : Bool)
  | unseparated
  | trailingComma
end

/-- Blanks between the tokens of a text. -/
def isSpace (b : UInt8) : Bool := b == 32 || b == 10 || b == 9 || b == 13

def skipSpace (s : Bytes) : Bytes := s.dropWhile isSpace

/-- Reads the remaining letters of a word. -/
def scanWord : Bytes → Bytes → Except SyntaxFault Bytes
  | [], s => .ok s
  | _ :: _, [] => .error .endInValue
  | c :: cs, b :: s => if b = c then scanWord cs s else .error .unknownWord

/-- A value that holds no others, by its first byte and what follows. -/
def scanScalar (first : UInt8) (s : Bytes) : Node × Bytes :=
  if first = 110 then
    match scanWord (utf8 "ull") s with
    | .ok r => (.null, r)
    | .error f => (.brokenNull f, [])
  else if first = 116 then
    match scanWord (utf8 "rue") s with
    | .ok r => (.bool true, r)
    | .error f => (.brokenBool f, [])
  else if first = 102 then
    match scanWord (utf8 "alse") s with
    | .ok r => (.bool false, r)
    | .error f => (.brokenBool f, [])
  else if first = 34 then
    match skipQuoted s with
    | .ok r => (.string (readQuoted s), r)
    | .error f =>
      (.brokenString (match readQuoted s with | .error g => g | .ok _ => f) f, [])
  else if first = 45 || isDigit first then
    match scanNumber (first :: s) with
    | .spelled n r => (.number n.value, r)
    | .broken f => (.brokenNumber f, [])
  else (.stray, [])

mutual
/-- Reads one value. Each level of `fuel` reads at least one byte or ends the reading. -/
def scanNode : Nat → Bytes → Node × Bytes
  | 0, _ => (.ended, [])
  | fuel + 1, s =>
    match skipSpace s with
    | [] => (.ended, [])
    | 91 :: r =>
      match skipSpace r with
      | [] => (.array .ended, [])
      | 93 :: r => (.array .close, r)
      | r => let (items, rest) := scanItem fuel r; (.array items, rest)
    | 123 :: r =>
      match skipSpace r with
      | [] => (.object (.ended false), [])
      | 125 :: r => (.object .close, r)
      | r => let (members, rest) := scanMember fuel r; (.object members, rest)
    | first :: r => scanScalar first r

/-- Reads an item and the rest of its array. -/
def scanItem : Nat → Bytes → Items × Bytes
  | 0, _ => (.ended, [])
  | fuel + 1, s =>
    let (value, r) := scanNode fuel s
    match skipSpace r with
    | [] => (.item value .ended, [])
    | 93 :: r => (.item value .close, r)
    | 44 :: r =>
      match skipSpace r with
      | 93 :: _ => (.item value .trailingComma, [])
      | r => let (items, rest) := scanItem fuel r; (.item value items, rest)
    | _ => (.item value .unseparated, [])

/-- Reads a member and the rest of its object. -/
def scanMember : Nat → Bytes → Members × Bytes
  | 0, _ => (.ended false, [])
  | fuel + 1, s =>
    match s with
    | 34 :: s =>
      match skipQuoted s with
      | .error f => (.brokenKey (match readQuoted s with | .error g => g | .ok _ => f) f, [])
      | .ok r =>
        match skipSpace r with
        | [] => (.keyOnly (readQuoted s) .endInObject, [])
        | 58 :: r =>
          let (value, r) := scanNode fuel r
          match skipSpace r with
          | [] => (.member (readQuoted s) value (.ended false), [])
          | 125 :: r => (.member (readQuoted s) value .close, r)
          | 44 :: r =>
            match skipSpace r with
            | [] => (.member (readQuoted s) value (.ended true), [])
            | 125 :: _ => (.member (readQuoted s) value .trailingComma, [])
            | r => let (members, rest) := scanMember fuel r
                   (.member (readQuoted s) value members, rest)
          | _ => (.member (readQuoted s) value .unseparated, [])
        | _ => (.keyOnly (readQuoted s) .noColon, [])
    | _ => (.notKey, [])
end

/-- Reads one value and returns what follows it. A byte is read at every second level of fuel at
the latest. -/
def scan (s : Bytes) : Node × Bytes := scanNode (2 * s.length + 2) s

end SpaceGateway.Json
