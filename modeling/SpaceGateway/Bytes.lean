/-!
Byte strings, as the network delivers them, and the UTF-8 bytes of a text.
-/
namespace SpaceGateway

abbrev Bytes := List UInt8

/-- The UTF-8 bytes of a text. -/
def utf8 (s : String) : Bytes := s.toByteArray.data.toList

/-- The text with these UTF-8 bytes, if they are well formed. -/
def text? (b : Bytes) : Option String := String.fromUTF8? ⟨b.toArray⟩

theorem text?_utf8 (s : String) : text? (utf8 s) = some s := by
  have h : (⟨(utf8 s).toArray⟩ : ByteArray) = s.toByteArray := by simp [utf8]
  rw [text?, h, String.fromUTF8?, dif_pos s.isValidUTF8]
  rfl

namespace Bytes

/-- The byte of an ASCII character. -/
def ofChar (c : Char) : UInt8 := c.toNat.toUInt8

/-- A blank between frames: space, tab, line feed, form feed or carriage return. -/
def isBlank (b : UInt8) : Bool := b == 32 || b == 9 || b == 10 || b == 12 || b == 13

/-- How many bytes stand before the first occurrence of `tag`. -/
def find? (tag : Bytes) : Bytes → Option Nat
  | [] => if tag.isEmpty then some 0 else none
  | b :: r => if tag.isPrefixOf (b :: r) then some 0 else (find? tag r).map (· + 1)

/-- Two lower-case hexadecimal digits for each byte. -/
def hex (b : Bytes) : String :=
  String.ofList (b.flatMap fun x => [Nat.digitChar (x.toNat / 16), Nat.digitChar (x.toNat % 16)])

end Bytes
end SpaceGateway
