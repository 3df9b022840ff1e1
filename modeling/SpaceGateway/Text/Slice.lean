/-!
Parts of a text that are given by the bytes that they fill in UTF-8.
-/
namespace SpaceGateway.Text

/-- The number of bytes that characters fill. -/
def byteSize : List Char → Nat
  | [] => 0
  | c :: s => c.utf8Size + byteSize s

/-- The characters that fill the first `n` bytes, and the rest, unless a character lies on both
sides. -/
def splitAtByte? : Nat → List Char → Option (List Char × List Char)
  | 0, s => some ([], s)
  | _ + 1, [] => none
  | n + 1, c :: s =>
    if c.utf8Size ≤ n + 1 then
      (splitAtByte? (n + 1 - c.utf8Size) s).map fun (before, after) => (c :: before, after)
    else none

/-- What stands from byte `start` on. -/
def dropBytes? (s : List Char) (start : Nat) : Option (List Char) :=
  (splitAtByte? start s).map (·.2)

/-- The `size` bytes from byte `start` on. -/
def slice? (s : List Char) (start size : Nat) : Option (List Char) := do
  let rest ← dropBytes? s start
  let (part, _) ← splitAtByte? size rest
  return part

end SpaceGateway.Text
