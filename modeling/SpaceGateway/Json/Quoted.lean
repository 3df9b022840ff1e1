import SpaceGateway.Json.Number
/-!
String literals of JSON, byte by byte. Writing escapes the quote, the backslash and the controls
below the space; all other bytes stand for themselves. Reading comes in two strengths: a strict
reader wants surrogates paired, one that only skips the literal does not.
-/
namespace SpaceGateway.Json

/-- The lower-case hexadecimal digit of a number below sixteen. -/
def hexDigit (n : Nat) : UInt8 := Bytes.ofChar (Nat.digitChar n)

/-- How one byte of a text stands inside a literal. -/
def escapeByte (b : UInt8) : Bytes :=
  if b = 34 then [92, 34]
  else if b = 92 then [92, 92]
  else if b = 8 then [92, 98]
  else if b = 12 then [92, 102]
  else if b = 10 then [92, 110]
  else if b = 13 then [92, 114]
  else if b = 9 then [92, 116]
  else if b < 32 then [92, 117, 48, 48, hexDigit (b.toNat / 16), hexDigit (b.toNat % 16)]
  else [b]

/-- The inside of a literal. -/
def escape (s : Bytes) : Bytes := s.flatMap escapeByte

/-- The value of a hexadecimal digit in either case. -/
def hexValue? (b : UInt8) : Option Nat :=
  if 48 ≤ b && b ≤ 57 then some (b.toNat - 48)
  else if 97 ≤ b && b ≤ 102 then some (b.toNat - 87)
  else if 65 ≤ b && b ≤ 70 then some (b.toNat - 55)
  else none

/-- The number of four hexadecimal digits. -/
def unit? (a b c d : UInt8) : Option Nat := do
  return ((← hexValue? a) * 16 + (← hexValue? b)) * 256 + (← hexValue? c) * 16 + (← hexValue? d)

/-- The byte that a one-letter escape stands for. -/
def unescapeLetter? (b : UInt8) : Option UInt8 :=
  if b = 34 || b = 92 || b = 47 then some b
  else if b = 98 then some 8
  else if b = 102 then some 12
  else if b = 110 then some 10
  else if b = 114 then some 13
  else if b = 116 then some 9
  else none

def isHighSurrogate (n : Nat) : Bool := 0xD800 ≤ n && n ≤ 0xDBFF
def isLowSurrogate (n : Nat) : Bool := 0xDC00 ≤ n && n ≤ 0xDFFF

/-- The UTF-8 bytes of a code point, last byte first. -/
def encodeReversed (code : Nat) : Bytes := (String.utf8EncodeChar (Char.ofNat code)).reverse

/-- What follows a high surrogate must be the escape of a low one. -/
def missingPair : Bytes → SyntaxFault
  | [] | [92] => .endInString
  | 92 :: 117 :: _ => .endInString
  | _ => .halfSurrogatePair

/-- Reads the inside of a literal up to its closing quote. `done` holds, last first, the bytes it
has read to. Returns the text's bytes, not yet known to be UTF-8, and what follows the quote. -/
def unescape (done : Bytes) : Bytes → Except SyntaxFault (Bytes × Bytes)
  | [] => .error .endInString
  | 34 :: r => .ok (done.reverse, r)
  | 92 :: 117 :: a :: b :: c :: d :: r =>
    match unit? a b c d with
    | none => .error .badEscape
    | some n =>
      if isLowSurrogate n then .error .loneSurrogate
      else if isHighSurrogate n then
        match r with
        | 92 :: 117 :: a' :: b' :: c' :: d' :: r' =>
          match unit? a' b' c' d' with
          | none => .error .badEscape
          | some m =>
            if isLowSurrogate m then
              unescape (encodeReversed ((n - 0xD800) * 0x400 + (m - 0xDC00) + 0x10000) ++ done) r'
            else .error .loneSurrogate
        | r => .error (missingPair r)
      else unescape (encodeReversed n ++ done) r
  | 92 :: e :: r =>
    if e = 117 then .error .endInString
    else match unescapeLetter? e with
      | some b => unescape (b :: done) r
      | none => .error .badEscape
  | [92] => .error .endInString
  | b :: r => if b < 32 then .error .controlInString else unescape (b :: done) r

/-- Skips the inside of a literal and its closing quote. -/
def skipQuoted : Bytes → Except SyntaxFault Bytes
  | [] => .error .endInString
  | 34 :: r => .ok r
  | 92 :: 117 :: a :: b :: c :: d :: r =>
    if (unit? a b c d).isSome then skipQuoted r else .error .badEscape
  | 92 :: e :: r =>
    if e = 117 then .error .endInString
    else if (unescapeLetter? e).isSome then skipQuoted r else .error .badEscape
  | [92] => .error .endInString
  | b :: r => if b < 32 then .error .controlInString else skipQuoted r

/-- The text of a literal whose opening quote is gone. Its bytes are checked at the closing
quote. -/
def readQuoted (s : Bytes) : Except SyntaxFault String := do
  let (bytes, _) ← unescape [] s
  match text? bytes with
  | some t => .ok t
  | none => .error .badEncoding

end SpaceGateway.Json
