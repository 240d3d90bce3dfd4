import SignerPlugin.Bytes
import SignerPlugin.Text.Quoted

/-! Where a byte string stops being UTF-8, and where a text cannot be written as UTF-8. A
sequence of bytes is cut off at the first that cannot go on, and the report names the bytes
read of it so far; a text stops at its first surrogate, and the report covers all those that
follow each other there. -/

namespace SignerPlugin.Text.Utf8

/-- Why a byte sequence is no character. -/
inductive Cause
  | startByte
  | continuationByte
  | endOfData
  deriving DecidableEq, Repr

/-- The first bytes that are not UTF-8: where they start, which they are, and why. -/
structure Fault where
  position : Nat
  bytes : Bytes
  cause : Cause
  deriving DecidableEq, Repr

def Cause.message : Cause → String
  | .startByte => "invalid start byte"
  | .continuationByte => "invalid continuation byte"
  | .endOfData => "unexpected end of data"

private def hexDigit (n : Nat) : Char := (Nat.toDigits 16 n).getLast?.getD '0'

/-- One faulty byte is shown, several are counted. -/
def Fault.message (fault : Fault) : String :=
  let place := match fault.bytes with
    | [byte] => "byte 0x" ++ String.ofList [hexDigit (byte.toNat / 16), hexDigit
      (byte.toNat % 16)] ++ " in position " ++ toString fault.position
    | bytes => "bytes in position " ++ toString fault.position ++ "-" ++
        toString (fault.position + bytes.length - 1)
  "'utf-8' codec can't decode " ++ place ++ ": " ++ fault.cause.message

private def isTail (byte : UInt8) : Bool := 0x80 ≤ byte && byte ≤ 0xBF

/-- The bytes that may follow a first byte: their number, and the range of the first of them.
`none` when no character starts so. -/
def tails (first : UInt8) : Option (Nat × UInt8 × UInt8) :=
  if first < 0x80 then some (0, 0x80, 0xBF)
  else if first < 0xC2 then none
  else if first < 0xE0 then some (1, 0x80, 0xBF)
  else if first == 0xE0 then some (2, 0xA0, 0xBF)
  else if first == 0xED then some (2, 0x80, 0x9F)
  else if first < 0xF0 then some (2, 0x80, 0xBF)
  else if first == 0xF0 then some (3, 0x90, 0xBF)
  else if first < 0xF4 then some (3, 0x80, 0xBF)
  else if first == 0xF4 then some (3, 0x80, 0x8F)
  else none

/-- How many of the next bytes are tails of one character, of which `count` are due and the first
lies in the range given; with the reason when they are too few. -/
private def takeTails : (count : Nat) → UInt8 → UInt8 → Bytes → Nat × Option Cause
  | 0, _, _, _ => (0, none)
  | _ + 1, _, _, [] => (0, some .endOfData)
  | count + 1, low, high, byte :: rest =>
    if low ≤ byte && byte ≤ high then
      let (taken, cause) := takeTails count 0x80 0xBF rest
      (taken + 1, cause)
    else (0, some .continuationByte)

/-- The first fault at or after a character boundary. `skip` bytes are known to be tails. -/
private def findFault (position skip : Nat) : Bytes → Option Fault
  | [] => none
  | first :: rest =>
    match skip with
    | skip + 1 => findFault (position + 1) skip rest
    | 0 => match tails first with
      | none => some ⟨position, [first], .startByte⟩
      | some (count, low, high) => match takeTails count low high rest with
        | (_, none) => findFault (position + 1) count rest
        | (taken, some cause) => some ⟨position, first :: rest.take taken, cause⟩

/-- The first fault of a byte string; none when it is UTF-8. -/
def fault? (bytes : Bytes) : Option Fault := findFault 0 0 bytes

/-- The text of a byte string, or its first fault. -/
def decode (bytes : Bytes) : Except Fault String :=
  match Bytes.text? bytes with
  | some text => .ok text
  | none => .error ((fault? bytes).getD ⟨0, bytes.take 1, .startByte⟩)

private def isSurrogate : CodePoint → Bool
  | .surrogate _ => true
  | .char _ => false

/-- What is said of a text that cannot be written. -/
def unwritable (text : CodeText) : String :=
  let before := text.takeWhile fun point => !isSurrogate point
  let stop := (text.drop before.length).takeWhile isSurrogate
  let place := match stop with
    | [point] =>
      "character '" ++ String.ofList (escaped '"' point) ++ "' in position " ++
      toString before.length
    | _ => "characters in position " ++ toString before.length ++ "-" ++
        toString (before.length + stop.length - 1)
  "'utf-8' codec can't encode " ++ place ++ ": surrogates not allowed"

end SignerPlugin.Text.Utf8
