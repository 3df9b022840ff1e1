import SpaceGateway.Bytes
import SpaceGateway.Json.Fault
/-!
Numbers in a JSON text. A number without point and exponent that fits 64 bits is an integer; any
other is the binary64 product or quotient of its leading digits and a power of ten.
-/
namespace SpaceGateway.Json

/-- The value of a number. -/
inductive Number
  | natural (n : Nat)
  /-- The integer `-n`, with `n` positive. -/
  | negative (n : Nat)
  | real (x : Float)

namespace Number

def found : Number → Found
  | natural n => .integer n
  | negative n => .integer (-n)
  | real x => .real x.toBits

end Number

/-- A number as it is spelt: its digits before and after the point, and its exponent. -/
structure Spelling where
  minus : Bool
  whole : List Nat
  fraction : List Nat
  /-- Whether the exponent is negative, and its digits. -/
  exponent : Option (Bool × List Nat)

def isDigit (b : UInt8) : Bool := 48 ≤ b && b ≤ 57

def digit (b : UInt8) : Nat := b.toNat - 48

/-- The digits at the front of a text and what follows them. -/
def digits (s : Bytes) : List Nat × Bytes :=
  ((s.takeWhile isDigit).map digit, s.dropWhile isDigit)

namespace Spelling

/-- Digits are taken up while the significand fits 64 bits. Returns it and the digits that were
left out. -/
def absorb : Nat → List Nat → Nat × List Nat
  | n, [] => (n, [])
  | n, d :: ds => if n * 10 + d < Nat.pow 2 64 then absorb (n * 10 + d) ds else (n, d :: ds)

/-- The exponent's digits, unless they exceed 31 bits. -/
def exponentValue? (ds : List Nat) : Option Nat :=
  ds.foldlM (fun n d => if n * 10 + d < Nat.pow 2 31 then some (n * 10 + d) else none) 0

/-- A power of ten that binary64 can hold. -/
def tenTo (n : Nat) : Float := Float.ofScientific 1 false n

/-- `x * 10 ^ -n`, dividing by at most `10 ^ 308` at a time. Four such divisions leave nothing of
a 64-bit significand. -/
def shrink : Nat → Float → Nat → Float
  | 0, x, _ => x
  | rounds + 1, x, n =>
    if n ≤ 308 || x == 0.0 then x / tenTo (min n 308) else shrink rounds (x / tenTo 308) (n - 308)

/-- `significand * 10 ^ power` in binary64. -/
def scale (significand : Nat) (power : Int) : Except SyntaxFault Float :=
  let x := significand.toUInt64.toFloat
  if power < 0 then .ok (shrink 4 x power.natAbs)
  else if 308 < power then if x == 0.0 then .ok x else .error .numberTooLarge
  else
    let y := x * tenTo power.toNat
    if y.isInf then .error .numberTooLarge else .ok y

/-- The number's magnitude in binary64. -/
def magnitude (s : Spelling) : Except SyntaxFault Float :=
  let (n, dropped) := absorb 0 s.whole
  let (m, unread) := absorb n s.fraction
  let point : Int := dropped.length - (s.fraction.length - unread.length)
  match s.exponent with
  | none => scale m point
  | some (minus, ds) =>
    match exponentValue? ds with
    | some e => scale m (if minus then point - e else point + e)
    | none => if m = 0 || minus then .ok 0.0 else .error .numberTooLarge

/-- The value of a number. Minus zero is no integer. -/
def value (s : Spelling) : Except SyntaxFault Number :=
  let (n, dropped) := absorb 0 s.whole
  if s.fraction = [] && s.exponent.isNone && dropped = [] &&
      (!s.minus || (0 < n && n ≤ Nat.pow 2 63)) then
    .ok (if s.minus then .negative n else .natural n)
  else s.magnitude.map fun x => .real (if s.minus then -x else x)

end Spelling

/-- What the front of a text spells, up to where the number ends or goes wrong. -/
inductive NumberScan
  | spelled (s : Spelling) (rest : Bytes)
  | broken (f : SyntaxFault)

/-- A fault where a digit was due: the text ends, or something else stands there. -/
def digitDue (s : Bytes) : SyntaxFault := if s.isEmpty then .endInValue else .badNumber

/-- The exponent of a number, after its letter. -/
def scanExponent (minus : Bool) (whole fraction : List Nat) (s : Bytes) : NumberScan :=
  let (negative, s) := match s with
    | 43 :: r => (false, r)
    | 45 :: r => (true, r)
    | _ => (false, s)
  match digits s with
  | ([], r) => .broken (digitDue r)
  | (ds, r) => .spelled ⟨minus, whole, fraction, some (negative, ds)⟩ r

/-- What may follow the digits before and after the point. -/
def scanTail (minus : Bool) (whole fraction : List Nat) : Bytes → NumberScan
  | 101 :: r | 69 :: r => scanExponent minus whole fraction r
  | r => .spelled ⟨minus, whole, fraction, none⟩ r

/-- A number after its sign. A leading zero stands alone before the point. -/
def scanUnsigned (minus : Bool) (s : Bytes) : NumberScan :=
  match digits s with
  | ([], r) => .broken (digitDue r)
  | (whole, r) =>
    if whole.head? = some 0 && whole.length ≠ 1 then .broken .badNumber
    else match r with
      | 46 :: r =>
        match digits r with
        | ([], r) => .broken (digitDue r)
        | (fraction, r) => scanTail minus whole fraction r
      | r => scanTail minus whole [] r

/-- A number with its sign. -/
def scanNumber : Bytes → NumberScan
  | 45 :: r => scanUnsigned true r
  | s => scanUnsigned false s

end SpaceGateway.Json
