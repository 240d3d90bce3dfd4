import SignerPlugin.Bytes

/-! The distinguished encoding of structured data: every element is a tag, a length and a
content, and there is one way only to write each of them. -/

namespace SignerPlugin.Der

/-- A tagged element. A tag that says so goes on behind its first byte. -/
structure Element where
  tag : UInt8
  content : Bytes
  tagRest : Bytes := []
  deriving DecidableEq, Repr

namespace Tag

def integer : UInt8 := 0x02
def bitString : UInt8 := 0x03
def octetString : UInt8 := 0x04
def null : UInt8 := 0x05
def identifier : UInt8 := 0x06
def sequence : UInt8 := 0x30
def set : UInt8 := 0x31

/-- The tag that tells a part of something from other parts by its number. -/
def part (number : UInt8) : UInt8 := 0xa0 + number

end Tag

/-- The bytes of a number, with none to spare. -/
def digits (n : Nat) : Bytes := Bytes.ofNat (if n = 0 then 0 else Nat.log2 n / 8 + 1) n

/-- A length below 128 is one byte; a greater one is the count of its bytes, marked, and they. -/
def writeLength (n : Nat) : Bytes :=
  if n < 128 then [UInt8.ofNat n] else UInt8.ofNat (128 + (digits n).length) :: digits n

def write (tag : UInt8) (content : Bytes) : Bytes :=
  tag :: (writeLength content.length ++ content)

def Element.write (element : Element) : Bytes :=
  element.tag :: (element.tagRest ++ writeLength element.content.length ++ element.content)

def sequence (parts : List Bytes) : Bytes := write Tag.sequence parts.flatten

/-- A number that is not negative. A first byte of zero keeps the sign. -/
def integer (n : Nat) : Bytes :=
  let bytes := digits n
  write Tag.integer (match bytes with
    | first :: _ => if 128 ≤ first.toNat then 0 :: bytes else bytes
    | [] => [0])

def octets (content : Bytes) : Bytes := write Tag.octetString content

/-- A string of whole bytes of bits. -/
def bits (content : Bytes) : Bytes := write Tag.bitString (0 :: content)

def null : Bytes := write Tag.null []

def identifier (content : Bytes) : Bytes := write Tag.identifier content

/-- The length that bytes start with, written the one way, and the bytes after it. -/
def readLength? : Bytes → Option (Nat × Bytes)
  | [] => none
  | first :: rest =>
    if first.toNat < 128 then some (first.toNat, rest)
    else
      let count := first.toNat - 128
      let length := Bytes.toNat (rest.take count)
      if count ≤ 4 ∧ count ≤ rest.length ∧ writeLength length = first :: rest.take count then
        some (length, rest.drop count)
      else none

/-- The number to base 128 that bytes start with, and the bytes after it. It has at most four
digits, all but the last one marked, and no zero to spare. -/
def readNumber? (bytes : Bytes) : Option (Bytes × Bytes) :=
  let marked := bytes.takeWhile (0x80 ≤ ·)
  match bytes.drop marked.length with
  | [] => none
  | last :: rest =>
    if marked.length ≤ 3 ∧ marked.head? ≠ some 0x80 then some (marked ++ [last], rest) else none

/-- The rest of the tag with a first byte, and the bytes after it. Numbers below 31 stand in
the first byte. -/
def readTagRest? (tag : UInt8) (bytes : Bytes) : Option (Bytes × Bytes) :=
  if tag &&& 0x1f = 0x1f then
    (readNumber? bytes).filter fun (number, _) => 1 < number.length || 31 ≤ number.toNat
  else some ([], bytes)

/-- The element that bytes start with, and the bytes after it. -/
def read? : Bytes → Option (Element × Bytes)
  | [] => none
  | tag :: rest => do
    let (tagRest, rest) ← readTagRest? tag rest
    let (length, rest) ← readLength? rest
    guard (length ≤ rest.length)
    return (⟨tag, rest.take length, tagRest⟩, rest.drop length)

/-- All elements of bytes; `fuel` bounds their number. -/
def readMany? : (fuel : Nat) → Bytes → Option (List Element)
  | _, [] => some []
  | 0, _ => none
  | fuel + 1, bytes => do
    let (element, rest) ← read? bytes
    return element :: (← readMany? fuel rest)

/-- The elements that bytes are made of. -/
def readAll? (bytes : Bytes) : Option (List Element) := readMany? bytes.length bytes

/-- The one element that bytes are, if it has the tag. -/
def content? (tag : UInt8) (bytes : Bytes) : Option Bytes :=
  match read? bytes with
  | some (element, []) => if element.tag = tag then some element.content else none
  | _ => none

/-- The elements of a sequence that bytes are. -/
def parts? (bytes : Bytes) : Option (List Element) := (content? Tag.sequence bytes).bind readAll?

namespace Element

def contentIf? (element : Element) (tag : UInt8) : Option Bytes :=
  if element.tag = tag then some element.content else none

def parts? (element : Element) : Option (List Element) :=
  (element.contentIf? Tag.sequence).bind readAll?

/-- The number that an element stands for, if it is not negative and has no byte to spare. -/
def nat? (element : Element) : Option Nat := do
  let content ← element.contentIf? Tag.integer
  let n := content.toNat
  guard (integer n = Der.write Tag.integer content)
  return n

/-- A number that fits a byte. -/
def small? (element : Element) : Option Nat := element.nat?.filter (· < 256)

/-- The bytes of a string of bits. The last byte may have bits to spare, which are zero then. -/
def bits? (element : Element) : Option Bytes := do
  match ← element.contentIf? Tag.bitString with
  | [] => none
  | spare :: bytes =>
    guard (spare < 8 ∧ (bytes ≠ [] ∨ spare = 0))
    guard ((bytes.getLast?.getD 0).toNat % Nat.pow 2 spare.toNat = 0)
    return bytes

/-- An identifier: one number after the other. -/
def identifier? (element : Element) : Option Bytes := do
  let content ← element.contentIf? Tag.identifier
  guard (content ≠ [] ∧ content.length ≤ 63 ∧ areNumbers content.length content)
  return content
where
  /-- Whether bytes are numbers; `fuel` bounds how many there are. -/
  areNumbers : (fuel : Nat) → Bytes → Bool
    | _, [] => true
    | 0, _ => false
    | fuel + 1, bytes => (readNumber? bytes).any fun (_, rest) => areNumbers fuel rest

/-- An element that stands for nothing. -/
def isNull (element : Element) : Bool := element.tag = Tag.null && element.content.isEmpty

/-- The element inside of one that has a tag only to tell it from others. -/
def inside? (element : Element) (tag : UInt8) : Option Element := do
  let (inner, rest) ← read? (← element.contentIf? tag)
  guard (rest = [])
  return inner

end Element

/-- Whether bytes come in order, like words in a dictionary. -/
def ascends : List Bytes → Bool
  | a :: b :: rest => !(b.map UInt8.toNat < a.map UInt8.toNat : Bool) && ascends (b :: rest)
  | _ => true

/-- The elements of a set, which stand in order. -/
def members? (content : Bytes) : Option (List Element) := do
  let members ← readAll? content
  guard (ascends (members.map Element.write))
  return members

end SignerPlugin.Der
