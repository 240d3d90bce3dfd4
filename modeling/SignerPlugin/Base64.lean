import SignerPlugin.Bytes

/-! Bytes as text in the standard base64 alphabet. Writing pads to whole groups of four characters;
reading demands the alphabet, and `=` signs only after the data. -/

namespace SignerPlugin.Base64

/-- Why a text is no base64. -/
inductive Fault
  | notAscii
  | notInAlphabet
  | leadingPadding
  | dataAfterPadding
  | excessData
  | shortPadding
  | loneCharacter (count : Nat)
  deriving DecidableEq, Repr

def Fault.message : Fault → String
  | .notAscii => "string argument should contain only ASCII characters"
  | .notInAlphabet => "Only base64 data is allowed"
  | .leadingPadding => "Leading padding not allowed"
  | .dataAfterPadding => "Discontinuous padding not allowed"
  | .excessData => "Excess data after padding"
  | .shortPadding => "Incorrect padding"
  | .loneCharacter count =>
    "Invalid base64-encoded string: number of data characters (" ++ toString count ++
      ") cannot be 1 more than a multiple of 4"

/-- The character that stands for a number below 64. -/
def digit (value : Nat) : Char :=
  if value < 26 then Char.ofNat (65 + value)
  else if value < 52 then Char.ofNat (71 + value)
  else if value < 62 then Char.ofNat (value - 4)
  else if value = 62 then '+' else '/'

/-- The number that a character stands for. -/
def value? (c : Char) : Option Nat :=
  if 'A' ≤ c && c ≤ 'Z' then some (c.toNat - 65)
  else if 'a' ≤ c && c ≤ 'z' then some (c.toNat - 71)
  else if '0' ≤ c && c ≤ '9' then some (c.toNat + 4)
  else if c = '+' then some 62
  else if c = '/' then some 63
  else none

/-- Three bytes make four characters; what is left over is padded with `=`. -/
def encodeChars : Bytes → List Char
  | a :: b :: c :: rest =>
    digit (a.toNat / 4) :: digit (a.toNat % 4 * 16 + b.toNat / 16) ::
      digit (b.toNat % 16 * 4 + c.toNat / 64) :: digit (c.toNat % 64) :: encodeChars rest
  | [a, b] =>
    [digit (a.toNat / 4), digit (a.toNat % 4 * 16 + b.toNat / 16), digit (b.toNat % 16 * 4), '=']
  | [a] => [digit (a.toNat / 4), digit (a.toNat % 4 * 16), '=', '=']
  | [] => []

def encode (bytes : Bytes) : String := String.ofList (encodeChars bytes)

/-- Where the reader stands: `place` characters of the current group have been read and left `bits`
over, `pads` signs `=` stand directly before, `padded` says whether any has come, and `written`
bytes are out. -/
structure State where
  place : Nat := 0
  bits : Nat := 0
  pads : Nat := 0
  padded : Bool := false
  written : Nat := 0
  deriving DecidableEq, Repr

/-- The byte that a data character completes, and the state after it. -/
def State.push (state : State) (value : Nat) : Option UInt8 × State :=
  let next := { state with pads := 0 }
  match state.place with
  | 0 => (none, { next with place := 1, bits := value })
  | 1 => (some (UInt8.ofNat (state.bits * 4 + value / 16)),
      { next with place := 2, bits := value % 16, written := state.written + 1 })
  | 2 => (some (UInt8.ofNat (state.bits * 16 + value / 4)),
      { next with place := 3, bits := value % 4, written := state.written + 1 })
  | _ => (some (UInt8.ofNat (state.bits * 64 + value)),
      { next with place := 0, bits := 0, written := state.written + 1 })

/-- What the end of the text means: a group may only end whole. -/
def State.finish (state : State) : Except Fault Bytes :=
  match state.place with
  | 0 => .ok []
  | 1 => .error (.loneCharacter (state.written / 3 * 4 + 1))
  | _ => .error .shortPadding

/-- Reads on from a state. A sign `=` that fills up a group ends the data; elsewhere it is passed
over, but no data may follow it. -/
def decodeFrom (state : State) : List Char → Except Fault Bytes
  | [] => state.finish
  | c :: rest =>
    if c = '=' then
      if 2 ≤ state.place ∧ 4 ≤ state.place + state.pads + 1 then
        if rest.isEmpty then .ok [] else .error .excessData
      else
        decodeFrom { state with pads := if 2 ≤ state.place then state.pads + 1 else state.pads,
                                padded := true } rest
    else match value? c with
      | none => .error .notInAlphabet
      | some value =>
        if state.padded then .error .dataAfterPadding
        else match state.push value with
          | (none, next) => decodeFrom next rest
          | (some byte, next) => (decodeFrom next rest).map (byte :: ·)

/-- The bytes that a text stands for. Bits left over in the last data character are ignored. -/
def decodeChars (text : List Char) : Except Fault Bytes :=
  if text.any (fun c => 128 ≤ c.toNat) then .error .notAscii
  else if text.head? = some '=' then .error .leadingPadding
  else decodeFrom {} text

def decode (text : String) : Except Fault Bytes := decodeChars text.toList

/-- The bytes of which a text is the written form. -/
def decodeCanonical? (text : List Char) : Option Bytes :=
  match decodeChars text with
  | .ok bytes => if encodeChars bytes = text then some bytes else none
  | .error _ => none

/-- A canonical text is what writing produces. -/
theorem decodeCanonical?_eq_some {text : List Char} {bytes : Bytes}
    (found : decodeCanonical? text = some bytes) : encodeChars bytes = text := by
  unfold decodeCanonical? at found
  split at found
  · split at found
    · cases found; assumption
    · cases found
  · cases found

/-- Reads on from a state, passing over all that is not in the alphabet. A sign `=` that fills
up a group ends the reading, whatever follows it. -/
def decodeLooselyFrom (state : State) : List Char → Option Bytes
  | [] => state.finish.toOption
  | c :: rest =>
    if c = '=' then
      if 2 ≤ state.place ∧ 4 ≤ state.place + state.pads + 1 then some []
      else decodeLooselyFrom { state with
        pads := if 2 ≤ state.place then state.pads + 1 else state.pads } rest
    else match value? c with
      | none => decodeLooselyFrom state rest
      | some value => match state.push value with
        | (none, next) => decodeLooselyFrom next rest
        | (some byte, next) => (decodeLooselyFrom next rest).map (byte :: ·)

/-- The bytes in a text with line ends and other characters between those of the alphabet. -/
def decodeLoosely? (text : List Char) : Option Bytes :=
  if text.any (fun c => 128 ≤ c.toNat) then none else decodeLooselyFrom {} text

end SignerPlugin.Base64
