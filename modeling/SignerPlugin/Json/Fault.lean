import SignerPlugin.Json.Reader

/-! What is said of a text that is no JSON document: the cause, and where in the text it lies. -/

namespace SignerPlugin.Json

/-- The text about an integer of too many digits. -/
def longIntegerMessage (digits : Nat) : String :=
  "Exceeds the limit (" ++ toString maxDigits ++
    " digits) for integer string conversion: value has " ++
    toString digits ++ " digits; use sys.set_int_max_str_digits() to increase the limit"

def Cause.message : Cause → String
  | .value => "Expecting value"
  | .memberName => "Expecting property name enclosed in double quotes"
  | .colon => "Expecting ':' delimiter"
  | .comma => "Expecting ',' delimiter"
  | .controlCharacter => "Invalid control character at"
  | .unterminatedString => "Unterminated string starting at"
  | .escape => "Invalid \\escape"
  | .unicodeEscape => "Invalid \\uXXXX escape"
  | .loneSurrogate => "Lone surrogate"
  | .extraData => "Extra data"
  | .byteOrderMark => "Unexpected UTF-8 BOM (decode using utf-8-sig)"
  | .longInteger digits => longIntegerMessage digits
  | .deepArray =>
    "maximum recursion depth exceeded while decoding a JSON array from a unicode string"
  | .deepObject =>
    "maximum recursion depth exceeded while decoding a JSON object from a unicode string"

/-- The word for the kind of failure. -/
def Cause.label : Cause → String
  | .deepArray | .deepObject => "RecursionError"
  | _ => "ValueError"

/-- Whether a cause lies in the form of the text at a place, and not in how much of it there is. -/
def Cause.isLocal : Cause → Bool
  | .longInteger _ | .deepArray | .deepObject => false
  | _ => true

/-- A place in a text: how many characters are before it, with its line and column counted
from one. -/
structure Location where
  index : Nat
  line : Nat
  column : Nat
  deriving DecidableEq, Repr

/-- The place behind some text. -/
def Location.after (text : List Char) : Location :=
  ⟨text.length, text.count '\n' + 1, (text.reverse.takeWhile (· ≠ '\n')).length + 1⟩

def Location.toText (place : Location) : String :=
  "line " ++ toString place.line ++ " column " ++ toString place.column ++
    " (char " ++ toString place.index ++ ")"

/-- Where in a text reading stopped. -/
def Stop.location (stop : Stop) (text : List Char) : Location :=
  .after (text.take (text.length - stop.rest.length))

/-- Why and where reading a text stopped. -/
def Stop.message (stop : Stop) (text : List Char) : String :=
  if stop.cause.isLocal then stop.cause.message ++ ": " ++ (stop.location text).toText
  else stop.cause.message

end SignerPlugin.Json
