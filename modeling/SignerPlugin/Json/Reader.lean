import SignerPlugin.Json
import SignerPlugin.Text.CodePoint

/-! Reading JSON text. The reader stops at the first character that cannot belong to a
document and says why. Some choices are made from outside: how deep containers may nest, how
long numbers may be, and what texts become, in which escapes can leave single surrogates. -/

namespace SignerPlugin.Json

open Text (CodePoint CodeText)

/-- The choices that a reader leaves open. -/
structure Policy (τ : Type) where
  /-- How many containers may stand inside one another; empty ones do not count. -/
  depth : Nat
  /-- Whether the limit on digits holds for all numbers and counts the sign, or else for
  integers alone. -/
  strictLength : Bool
  /-- What a text becomes; nothing when it is refused for its surrogates. -/
  text? : CodeText → Option τ

/-- Why reading stopped. -/
inductive Cause
  | value
  | memberName
  | colon
  | comma
  | controlCharacter
  | unterminatedString
  | escape
  | unicodeEscape
  | loneSurrogate
  | extraData
  | byteOrderMark
  | longInteger (digits : Nat)
  | deepArray
  | deepObject
  deriving DecidableEq, Repr

/-- Reading stopped for a cause, with the characters that are left at that point. -/
structure Stop where
  cause : Cause
  rest : List Char
  deriving Repr

def isBlank (c : Char) : Bool := c = ' ' || c = '\t' || c = '\n' || c = '\r'

/-- The input from its first character that is no blank. -/
def skipBlanks (input : List Char) : List Char := input.dropWhile isBlank

/-- An integer has at most this many digits. -/
def maxDigits : Nat := 4300

/-- The value of a hexadecimal digit. -/
def hexValue? (c : Char) : Option Nat :=
  if '0' ≤ c && c ≤ '9' then some (c.toNat - 48)
  else if 'a' ≤ c && c ≤ 'f' then some (c.toNat - 87)
  else if 'A' ≤ c && c ≤ 'F' then some (c.toNat - 55)
  else none

/-- The value of four hexadecimal digits. -/
def hexQuad? (a b c d : Char) : Option Nat :=
  match hexValue? a, hexValue? b, hexValue? c, hexValue? d with
  | some a, some b, some c, some d => some (((a * 16 + b) * 16 + c) * 16 + d)
  | _, _, _, _ => none

/-- The character that a one-letter escape stands for. -/
def unescape? (c : Char) : Option Char :=
  if c = '"' then some '"'
  else if c = '\\' then some '\\'
  else if c = '/' then some '/'
  else if c = 'b' then some '\x08'
  else if c = 'f' then some '\x0c'
  else if c = 'n' then some '\n'
  else if c = 'r' then some '\r'
  else if c = 't' then some '\t'
  else none

def isHighSurrogate (code : Nat) : Bool := 0xD800 ≤ code && code < 0xDC00
def isLowSurrogate (code : Nat) : Bool := 0xDC00 ≤ code && code < 0xE000

/-- The code of an escape, given its digits and the input after them. An escape that nothing
follows is cut short. -/
def escapeCode? (a b c d : Char) (rest : List Char) : Option Nat :=
  if rest.isEmpty then none else hexQuad? a b c d

/-- The low half of a pair that the input goes on with, and the input after it. -/
def lowHalf? : List Char → Option (Nat × List Char)
  | '\\' :: 'u' :: a :: b :: c :: d :: rest =>
    match escapeCode? a b c d rest with
    | some code => if isLowSurrogate code then some (code, rest) else none
    | none => none
  | _ => none

private theorem lowHalf?_length {input rest : List Char} {code : Nat}
    (found : lowHalf? input = some (code, rest)) : rest.length < input.length := by
  unfold lowHalf? at found
  split at found
  · split at found
    · split at found
      · cases found; simp only [List.length_cons]; omega
      · cases found
    · cases found
  · cases found

/-- Reads the inside of a string up to its closing quote; `start` is the input from its opening
quote on. -/
def readCodes (start : List Char) (input : List Char) : Except Stop (CodeText × List Char) :=
  match input with
  | [] => .error ⟨.unterminatedString, start⟩
  | '"' :: rest => .ok ([], rest)
  | ['\\'] => .error ⟨.unterminatedString, start⟩
  | '\\' :: 'u' :: a :: b :: c :: d :: rest =>
    match escapeCode? a b c d rest with
    | none => .error ⟨.unicodeEscape, 'u' :: a :: b :: c :: d :: rest⟩
    | some code =>
      match _pair : if isHighSurrogate code then lowHalf? rest else none with
      | some (low, after) => do
        let (text, rest) ← readCodes start after
        .ok (.char (Char.ofNat (0x10000 + (code - 0xD800) * 1024 + (low - 0xDC00))) :: text, rest)
      | none => do
        let (text, rest) ← readCodes start rest
        .ok ((CodePoint.ofNat? code).toList ++ text, rest)
  | '\\' :: 'u' :: rest => .error ⟨.unicodeEscape, 'u' :: rest⟩
  | '\\' :: c :: rest =>
    match unescape? c with
    | none => .error ⟨.escape, input⟩
    | some plain => do
      let (text, rest) ← readCodes start rest
      .ok (.char plain :: text, rest)
  | c :: rest =>
    if c.toNat < 32 then .error ⟨.controlCharacter, input⟩
    else do
      let (text, rest) ← readCodes start rest
      .ok (.char c :: text, rest)
  termination_by input.length
  decreasing_by
    all_goals simp_wf
    all_goals first
      | (split at _pair
         · have := lowHalf?_length _pair; omega
         · cases _pair)
      | omega

/-- Reads a string from behind its opening quote on. -/
def readText {τ : Type} (policy : Policy τ) (start input : List Char) :
    Except Stop (τ × List Char) := do
  let (codes, rest) ← readCodes start input
  match policy.text? codes with
  | some text => .ok (text, rest)
  | none => .error ⟨.loneSurrogate, start⟩

/-- The number that digits to base ten stand for. -/
def digitsValue (digits : List Char) : Nat :=
  digits.foldl (fun sum c => sum * 10 + (c.toNat - 48)) 0

/-- The fraction that the input goes on with: its digits, without the point. -/
def readFraction : List Char → List Char × List Char
  | '.' :: rest =>
    let digits := rest.takeWhile Char.isDigit
    if digits.isEmpty then ([], '.' :: rest) else (digits, rest.dropWhile Char.isDigit)
  | input => ([], input)

/-- The exponent that the input goes on with, if there is a whole one. -/
def readExponent (input : List Char) : Option Int × List Char :=
  match input with
  | e :: rest =>
    if e = 'e' || e = 'E' then
      let (negative, unsigned) := match rest with
        | '-' :: rest => (true, rest)
        | '+' :: rest => (false, rest)
        | rest => (false, rest)
      let digits := unsigned.takeWhile Char.isDigit
      if digits.isEmpty then (none, input)
      else
        let size : Int := digitsValue digits
        (some (if negative then -size else size), unsigned.dropWhile Char.isDigit)
    else (none, input)
  | [] => (none, [])

/-- The whole digits of a number. One that starts with zero has no further ones. -/
def wholeDigits : List Char → List Char
  | '0' :: _ => ['0']
  | input => input.takeWhile Char.isDigit

/-- Reads a number without its sign. -/
def readNumber {τ : Type} (policy : Policy τ) (start : List Char) (negative : Bool)
    (input : List Char) :
    Except Stop (JsonTree τ × List Char) :=
  let whole := wholeDigits input
  if whole.isEmpty then .error ⟨.value, start⟩
  else
    let (fraction, rest) := readFraction (input.drop whole.length)
    let (exponent, rest) := readExponent rest
    let size : Int := digitsValue (whole ++ fraction)
    let value := if negative then -size else size
    let isWhole := fraction.isEmpty && exponent.isNone
    let length := whole.length + (if policy.strictLength && negative then 1 else 0)
    if (policy.strictLength || isWhole) && maxDigits <
      length then .error ⟨.longInteger length, start⟩
    else .ok (if isWhole then .int value else .decimal value
      (exponent.getD 0 - fraction.length), rest)

/-- What is left of the input after a word, if it starts with it. -/
def afterWord? (word : String) (input : List Char) : Option (List Char) :=
  let letters := word.toList
  if letters.isPrefixOf input then some (input.drop letters.length) else none

/-- Reads a value that is neither a string nor a container. -/
def readPlain {τ : Type} (policy : Policy τ) (input : List Char) :
    Except Stop (JsonTree τ × List Char) :=
  match afterWord? "null" input with
  | some rest => .ok (.null, rest)
  | none => match afterWord? "true" input with
  | some rest => .ok (.bool true, rest)
  | none => match afterWord? "false" input with
  | some rest => .ok (.bool false, rest)
  | none => match afterWord? "NaN" input with
  | some rest => .ok (.nan, rest)
  | none => match afterWord? "Infinity" input with
  | some rest => .ok (.infinite false, rest)
  | none => match afterWord? "-Infinity" input with
  | some rest => .ok (.infinite true, rest)
  | none => match input with
  | '-' :: rest => readNumber policy input true rest
  | _ => readNumber policy input false input

mutual

/-- Reads one value. The fuel bounds the number of values and separators still to come. -/
def readValue {τ : Type} (policy : Policy τ) :
    (fuel depth : Nat) → List Char → Except Stop (JsonTree τ × List Char)
  | 0, _, input => .error ⟨.value, input⟩
  | fuel + 1, depth, input => match input with
    | '"' :: rest => do
      let (text, rest) ← readText policy input rest
      .ok (.str text, rest)
    | '[' :: rest => match skipBlanks rest with
      | ']' :: rest => .ok (.arr [], rest)
      | rest => match depth with
        | 0 => .error ⟨.deepArray, input⟩
        | depth + 1 => do
          let (items, rest) ← readItems policy fuel depth rest
          .ok (.arr items, rest)
    | '{' :: rest => match skipBlanks rest with
      | '}' :: rest => .ok (.obj [], rest)
      | rest => match depth with
        | 0 => .error ⟨.deepObject, input⟩
        | depth + 1 => do
          let (members, rest) ← readMembers policy fuel depth rest
          .ok (.obj members, rest)
    | _ => readPlain policy input

/-- Reads the items of an array from a value on, up to the closing bracket. -/
def readItems {τ : Type} (policy : Policy τ) :
    (fuel depth : Nat) → List Char → Except Stop (List (JsonTree τ) × List Char)
  | 0, _, input => .error ⟨.value, input⟩
  | fuel + 1, depth, input => do
    let (item, rest) ← readValue policy fuel depth input
    match skipBlanks rest with
    | ']' :: rest => .ok ([item], rest)
    | ',' :: rest => do
      let (items, rest) ← readItems policy fuel depth (skipBlanks rest)
      .ok (item :: items, rest)
    | rest => .error ⟨.comma, rest⟩

/-- Reads the members of an object from a name on, up to the closing brace. -/
def readMembers {τ : Type} (policy : Policy τ) :
    (fuel depth : Nat) → List Char → Except Stop (List (τ × JsonTree τ) × List Char)
  | 0, _, input => .error ⟨.memberName, input⟩
  | fuel + 1, depth, input => match input with
    | '"' :: rest => do
      let (name, rest) ← readText policy input rest
      match skipBlanks rest with
      | ':' :: rest => do
        let (value, rest) ← readValue policy fuel depth (skipBlanks rest)
        match skipBlanks rest with
        | '}' :: rest => .ok ([(name, value)], rest)
        | ',' :: rest => do
          let (members, rest) ← readMembers policy fuel depth (skipBlanks rest)
          .ok ((name, value) :: members, rest)
        | rest => .error ⟨.comma, rest⟩
      | rest => .error ⟨.colon, rest⟩
    | _ => .error ⟨.memberName, input⟩

end

/-- Reads a whole document: one value, with blanks around it and nothing else. -/
def readDocument {τ : Type} (policy : Policy τ) (input : List Char) : Except Stop (JsonTree τ) := do
  if input.head? = some '\uFEFF' then .error ⟨.byteOrderMark, input⟩
  else
    let (value, rest) ← readValue policy (2 * input.length + 1) policy.depth (skipBlanks input)
    match skipBlanks rest with
    | [] => .ok value
    | rest => .error ⟨.extraData, rest⟩

/-- Messages between programs nest at most 200 containers, empty ones aside, and hold no single
surrogates. -/
def wirePolicy : Policy String := ⟨200, true, CodeText.string?⟩

/-- The tree of a message, if it is well-formed. -/
def parse? (bytes : Bytes) : Option Json :=
  match Bytes.text? bytes with
  | none => none
  | some text => (readDocument wirePolicy text.toList).toOption

end SignerPlugin.Json
