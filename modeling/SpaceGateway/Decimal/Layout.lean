import SpaceGateway.Decimal.Shortest
/-!
How a binary64 number is written out: which magnitudes are positional, and how the others show
their power of ten.
-/
namespace SpaceGateway.Decimal

/-- The choices a number format makes about the digits it is given. -/
structure Layout where
  /-- The least place of the leading digit that is written positionally. -/
  lowest : Int
  /-- The greatest one. -/
  highest : Int
  /-- Whether a power of ten that is not negative carries a sign. -/
  plusSign : Bool

/-- Digits with a point after the first `whole` of them, padded with zeros on either side. -/
def positional (digits : List Char) (whole : Int) : List Char :=
  if whole ≤ 0 then ['0', '.'] ++ List.replicate whole.natAbs '0' ++ digits
  else
    let n := whole.toNat
    if digits.length ≤ n then digits ++ List.replicate (n - digits.length) '0' ++ ['.', '0']
    else digits.take n ++ '.' :: digits.drop n

/-- Digits with a point after the first, unless it is the only one, and the power of ten. -/
def scientific (l : Layout) (digits : List Char) (place : Int) : List Char :=
  let sign := if place < 0 then ['-'] else if l.plusSign then ['+'] else []
  let mantissa := match digits with
    | [] => []
    | [d] => [d]
    | d :: r => d :: '.' :: r
  mantissa ++ ['e'] ++ sign ++ Nat.toDigits 10 place.natAbs

/-- A finite number, given by its bits, under a layout. Both zeros are positional and keep their
sign. -/
def Layout.write (l : Layout) (bits : UInt64) : String :=
  let sign := if bits.toNat / Nat.pow 2 63 = 1 then ['-'] else []
  let magnitude := Binary.ofBits bits
  if magnitude.mantissa = 0 then String.ofList (sign ++ ['0', '.', '0'])
  else
    let (n, power) := shortest magnitude
    let digits := Nat.toDigits 10 n
    let place := power + digits.length - 1
    String.ofList <| sign ++
      if l.lowest ≤ place && place ≤ l.highest then positional digits (place + 1)
      else scientific l digits place

end SpaceGateway.Decimal
