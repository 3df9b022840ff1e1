/-!
The shortest decimal that reads back as a given binary64 number. A finite positive number is
`mantissa * 2 ^ exponent`; the reals that round to it form an interval around it, with its ends
included when the mantissa is even. Among decimals of one digit, then of two, and so on, the first
that lies in the interval is taken, and of two the nearer.
-/
namespace SpaceGateway.Decimal

/-- The parts of a finite binary64 number, its sign aside. -/
structure Binary where
  mantissa : Nat
  exponent : Int
  /-- The gap to the next number below is half the gap above. -/
  narrowBelow : Bool

/-- The parts of a number from its 64 bits. -/
def Binary.ofBits (bits : UInt64) : Binary :=
  let fraction : Nat := bits.toNat % Nat.pow 2 52
  let field : Nat := bits.toNat / Nat.pow 2 52 % Nat.pow 2 11
  if field = 0 then ⟨fraction, -1074, false⟩
  else ⟨Nat.pow 2 52 + fraction, (field : Int) - 1075, fraction = 0 && field > 1⟩

/-- A positive ratio of naturals. -/
structure Ratio where
  num : Nat
  den : Nat

/-- `scale * base ^ power` as a ratio. -/
def Ratio.ofPower (scale base : Nat) (power : Int) : Ratio :=
  if power < 0 then ⟨scale, base.pow power.natAbs⟩ else ⟨scale * base.pow power.natAbs, 1⟩

def Ratio.le (a b : Ratio) : Bool := a.num * b.den ≤ b.num * a.den
def Ratio.lt (a b : Ratio) : Bool := a.num * b.den < b.num * a.den

namespace Binary

/-- A quarter of a unit in the last place, `k` times. -/
def quarters (b : Binary) (k : Nat) : Ratio := .ofPower k 2 (b.exponent - 2)

def value (b : Binary) : Ratio := b.quarters (4 * b.mantissa)

/-- Whether `digits * 10 ^ power` rounds to the number. -/
def roundsFrom (b : Binary) (digits : Nat) (power : Int) : Bool :=
  let low := b.quarters (4 * b.mantissa - if b.narrowBelow then 1 else 2)
  let high := b.quarters (4 * b.mantissa + 2)
  let x := Ratio.ofPower digits 10 power
  if b.mantissa % 2 = 0 then low.le x && x.le high else low.lt x && x.lt high

/-- The digits of the number on the grid of multiples of `10 ^ power`, rounded down. -/
def floorAt (b : Binary) (power : Int) : Nat :=
  let v := b.value
  let step := Ratio.ofPower 1 10 power
  v.num * step.den / (v.den * step.num)

/-- Whether the grid point above is at least as near as the one below, a tie going to the even
digit. -/
def nearerAbove (b : Binary) (digits : Nat) (power : Int) : Bool :=
  let v := b.value
  let middle := Ratio.ofPower (10 * digits + 5) 10 (power - 1)
  middle.lt v || (v.le middle && middle.le v && digits % 2 = 1)

/-- The least of the `count` places from `k` on after the point where a ratio below one has
reached one. No binary64 number needs more than 324. -/
def placeAfterPoint (v : Ratio) : Nat → Nat → Nat
  | 0, k => k
  | count + 1, k => if v.den ≤ v.num * Nat.pow 10 k then k else placeAfterPoint v count (k + 1)

/-- The place of the leading digit: the largest `e` with `10 ^ e` at most the number. -/
def leading (b : Binary) : Int :=
  let v := b.value
  if v.den ≤ v.num then ((Nat.toDigits 10 (v.num / v.den)).length : Int) - 1
  else -(placeAfterPoint v 324 1 : Int)

/-- The nearest decimal with `count` digits that rounds to the number, if there is one. -/
def withDigits? (b : Binary) (count : Nat) : Option (Nat × Int) :=
  let power := b.leading - (count : Int) + 1
  let down := b.floorAt power
  let isDown := b.roundsFrom down power
  let isUp := b.roundsFrom (down + 1) power
  if isDown && !(isUp && b.nearerAbove down power) then some (down, power)
  else if isUp then some (down + 1, power)
  else none

end Binary

/-- A positive integer without its final zeros, and how many it had. -/
def trimZeros : Nat → Nat → Nat → Nat × Nat
  | 0, n, z => (n, z)
  | fuel + 1, n, z => if n ≠ 0 && n % 10 = 0 then trimZeros fuel (n / 10) (z + 1) else (n, z)

/-- The shortest `digits * 10 ^ power` that reads back as the number. Seventeen digits always
do. -/
def shortest (b : Binary) : Nat × Int :=
  match (List.range 17).findSome? fun k => b.withDigits? (k + 1) with
  | some (digits, power) =>
    let (d, z) := trimZeros 20 digits 0
    (d, power + z)
  | none => (0, 0)

end SpaceGateway.Decimal
