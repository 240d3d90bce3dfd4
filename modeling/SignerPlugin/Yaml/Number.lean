import SignerPlugin.Config.Tree
import SignerPlugin.Json.Reader
import SignerPlugin.Text.Digit
import SignerPlugin.Text.SmallLetters
import SignerPlugin.Yaml.Fault

/-! Numbers: which plain scalars are numbers, and which numbers they are. Underscores may
stand among the digits, and colons part digits to base sixty. -/

namespace SignerPlugin.Yaml

open Numeric (Binary64)
open Text (CodePoint CodeText)

/-- A text without the sign in front of it, and whether that is a minus. -/
def unsigned : List Char → Bool × List Char
  | '-' :: rest => (true, rest)
  | '+' :: rest => (false, rest)
  | text => (false, text)

/-- The parts of a text between its colons. -/
def colonParts : List Char → List (List Char)
  | [] => [[]]
  | ':' :: rest => [] :: colonParts rest
  | c :: rest => match colonParts rest with
    | [] => [[c]]
    | part :: parts => (c :: part) :: parts

def isDigitOrBar (c : Char) : Bool := c.isDigit || c = '_'

/-- Whether a text is a digit and then digits and underscores. -/
def isWhole (text : List Char) : Bool := text.head?.any Char.isDigit && text.all isDigitOrBar

/-- Whether a text is a digit of base sixty. -/
def isSixtieth : List Char → Bool
  | [a] => a.isDigit
  | [a, b] => '0' ≤ a && a ≤ '5' && b.isDigit
  | _ => false

/-- Whether a text consists of digits to base sixty. -/
def isSexagesimal (text : List Char) : Bool :=
  match colonParts text with
  | first :: part :: parts => isWhole first && (part :: parts).all isSixtieth
  | _ => false

/-- Whether a plain scalar is an integer. -/
def isInteger (text : List Char) : Bool :=
  match (unsigned text).2 with
  | '0' :: 'b' :: rest => !rest.isEmpty && rest.all fun c => c = '0' || c = '1' || c = '_'
  | '0' :: 'x' :: rest => !rest.isEmpty && rest.all fun c => (Json.hexValue? c).isSome || c = '_'
  | '0' :: rest => rest.all fun c => ('0' ≤ c && c ≤ '7') || c = '_'
  | rest => isWhole rest || isSexagesimal rest

/-- Whether a text is nothing or an exponent with its sign. -/
def isExponent : List Char → Bool
  | [] => true
  | e :: sign :: digits =>
    (e = 'e' || e = 'E') && (sign = '+' || sign = '-') && !digits.isEmpty && digits.all Char.isDigit
  | _ => false

/-- Whether a plain scalar is a number with a point. -/
def isFloat (text : List Char) : Bool :=
  let digits := (unsigned text).2
  let whole := digits.takeWhile (· ≠ '.')
  [".nan", ".NaN", ".NAN"].any (·.toList = text) || [".inf", ".Inf", ".INF"].any
    (·.toList = digits) ||
    match digits.dropWhile (· ≠ '.') with
    | _ :: fraction =>
      let behind := fraction.dropWhile isDigitOrBar
      if whole.isEmpty then digits = text && fraction.head?.any Char.isDigit && isExponent behind
      else (isWhole whole && isExponent behind) || (isSexagesimal whole && behind.isEmpty)
    | [] => false

/-- The letter behind a zero that announces a base. -/
def baseLetter? (base : Nat) : Option Char :=
  if base = 2 then some 'b' else if base = 8 then some 'o' else if base = 16 then some 'x' else none

/-- The digits behind a zero and a letter that announce their base, if that is done. -/
def withoutBase (base : Nat) : List Char → List Char
  | '0' :: letter :: digits =>
    if baseLetter? base = some letter.toLower then digits else '0' :: letter :: digits
  | digits => digits

/-- The value of a digit to a base. -/
def digitOfBase? (base : Nat) (c : Char) : Option Nat := (Json.hexValue? c).filter (· < base)

/-- The integer that digits to a base stand for; blanks around them and a sign are allowed. -/
def integerOfDigits (base : Nat) (text : CodeText) : Except Fault Int :=
  let (negative, rest) := unsigned (Text.numberChars text)
  let behind := withoutBase base rest
  let digits := behind.map (digitOfBase? base)
  let count := (digits.takeWhile Option.isSome).length
  if base = 10 && Json.maxDigits < count then .error (.longInteger count)
  else if digits.isEmpty || count < digits.length then .error (.notAnInteger base text)
  else
    let size : Int := (digits.foldl (fun sum digit => sum * base + digit.getD 0) 0 : Nat)
    .ok (if negative then -size else size)

/-- A text without its underscores. -/
def withoutBars (text : CodeText) : CodeText := text.filter (· ≠ .char '_')

/-- A text without the sign in front of it, and whether that is a minus. -/
def unsignedCodes : CodeText → Bool × CodeText
  | .char '-' :: rest => (true, rest)
  | .char '+' :: rest => (false, rest)
  | text => (false, text)

/-- The parts of a text between its colons. -/
def colonCodes : CodeText → List CodeText
  | [] => [[]]
  | .char ':' :: rest => [] :: colonCodes rest
  | point :: rest => match colonCodes rest with
    | [] => [[point]]
    | part :: parts => (point :: part) :: parts

/-- The integer that a text means. A zero in front announces base eight. -/
def readInteger (text : CodeText) : Except Fault Int := do
  let (negative, rest) := unsignedCodes (withoutBars text)
  let size ← match rest with
    | [] => throw .emptyNumber
    | [.char '0'] => pure 0
    | .char '0' :: .char 'b' :: digits => integerOfDigits 2 digits
    | .char '0' :: .char 'x' :: digits => integerOfDigits 16 digits
    | .char '0' :: _ => integerOfDigits 8 rest
    | rest => do
      let parts ← (colonCodes rest).mapM (integerOfDigits 10)
      pure (parts.foldl (fun sum part => sum * 60 + part) 0)
  return if negative then -size else size

/-- The number in decimal notation, or the word for infinity or for none, that a text is. -/
def decimal? (text : List Char) : Option Binary64 := do
  let (negative, unsigned) := unsigned text
  let whole := unsigned.takeWhile Char.isDigit
  let (fraction, rest) := match unsigned.dropWhile Char.isDigit with
    | '.' :: rest => (rest.takeWhile Char.isDigit, rest.dropWhile Char.isDigit)
    | rest => ([], rest)
  if (whole ++ fraction).isEmpty then
    if unsigned = "inf".toList || unsigned = "infinity".toList then return .infinite negative
    guard (unsigned = "nan".toList)
    return .nan
  let (exponent, rest) := Json.readExponent rest
  guard rest.isEmpty
  let size : Int := Json.digitsValue (whole ++ fraction)
  return .ofDecimal (if negative then -size else size) (exponent.getD 0 - fraction.length)

/-- The same, for a text that must be one. -/
def readDecimal (text : CodeText) : Except Fault Binary64 :=
  match decimal? (Text.numberChars text) with
  | some value => .ok value
  | none => .error (.notANumber text)

/-- The sum so far, with numbers of which each counts sixty times as much as the one before
it. Every step is rounded, and so is each factor, which must not be beyond all rounded
numbers. -/
def addSixtieths (sum : Binary64) (factor : Nat) : List Binary64 → Except Fault Binary64
  | [] => .ok sum
  | part :: rest => match Binary64.ofRatio factor 1 with
    | .finite m q => addSixtieths (sum.add (part.mul (.finite m q))) (factor * 60) rest
    | _ => .error .wideFactor

/-- The number that a text means, with a point or without. -/
def readFloat (text : CodeText) : Except Fault Binary64 := do
  let text := Text.smallLetters (withoutBars text)
  if text.isEmpty then throw .emptyNumber
  let (negative, rest) := unsignedCodes text
  let value ← if rest = .ofString ".inf" then pure (.infinite false)
    else if rest = .ofString ".nan" then pure .nan
    else match ← (colonCodes rest).mapM readDecimal with
      | [only] => pure only
      | parts => addSixtieths (.finite 0 0) 1 parts.reverse
  return if negative then value.neg else value

end SignerPlugin.Yaml
