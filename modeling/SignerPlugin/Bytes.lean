/-! Byte strings, and their two readings: as a number written big end first, and as UTF-8 text. -/

namespace SignerPlugin

/-- A byte string, first byte first. -/
abbrev Bytes := List UInt8

namespace Bytes

/-- The number whose digits to base 256 are the bytes, most significant first. -/
def toNat (bytes : Bytes) : Nat :=
  bytes.foldl (fun sum byte => sum * 256 + byte.toNat) 0

/-- The `width` low digits to base 256 of a number, most significant first. -/
def ofNat : (width : Nat) → Nat → Bytes
  | 0, _ => []
  | width + 1, n => ofNat width (n / 256) ++ [UInt8.ofNat (n % 256)]

/-- The same number with the least significant byte first. -/
def toNatLittle (bytes : Bytes) : Nat := toNat bytes.reverse

/-- The `width` low digits to base 256 of a number, least significant first. -/
def ofNatLittle (width n : Nat) : Bytes := (ofNat width n).reverse

/-- The UTF-8 form of a text. -/
def ofText (text : String) : Bytes := text.toUTF8.data.toList

/-- The text that has these bytes as its UTF-8 form, if there is one. -/
def text? (bytes : Bytes) : Option String := String.fromUTF8? ⟨bytes.toArray⟩

theorem text?_ofText (text : String) : text? (ofText text) = some text := by
  have valid : (⟨(ofText text).toArray⟩ : ByteArray) = text.toByteArray := by
    simp [ofText, String.toUTF8]
  unfold text? String.fromUTF8?
  rw [valid, dif_pos text.isValidUTF8]
  rfl

/-- Both byte strings joined digit by digit with exclusive or, as far as the shorter reaches. -/
def xor (a b : Bytes) : Bytes := List.zipWith (· ^^^ ·) a b

end Bytes
end SignerPlugin
