import SignerPlugin.Json.Fault
import SignerPlugin.Text.Quoted
import SignerPlugin.Time.OutOfRange

/-! What can be wrong with a YAML text. Most faults are reported alike; some come from single values
that their type cannot hold and are reported with a text of their own. -/

namespace SignerPlugin.Yaml

open Text (CodeText)
open Time (OutOfRange)

inductive Fault
  /-- The text is no YAML text, or says nothing that has a value. -/
  | malformed
  | tooDeep
  /-- An escape has a number beyond that of every character. -/
  | wideCharacter (code : Nat)
  | notAnInteger (base : Nat) (text : CodeText)
  | longInteger (digits : Nat)
  | notANumber (text : CodeText)
  | emptyNumber
  /-- A number has so many parts that the first one counts too much. -/
  | wideFactor
  | notATime
  /-- A mapping stands where a time is wanted. -/
  | timeOfMapping
  | outOfRange (part : OutOfRange)
  | notATruthValue (word : CodeText)
  deriving DecidableEq, Repr

/-- Numbers of characters from here on are not even tried. -/
def maxCode : Nat := 0x80000000

def Fault.message : Fault → String
  | .malformed => "malformed"
  | .tooDeep => "maximum recursion depth exceeded"
  | .wideCharacter code =>
    if code < maxCode then "chr() arg not in range(0x110000)"
    else "Python int too large to convert to C int"
  | .notAnInteger base text =>
    "invalid literal for int() with base " ++ toString base ++ ": " ++
      String.ofList ((Text.quotedCodes text).toList.take 200)
  | .longInteger digits => Json.longIntegerMessage digits
  | .notANumber text => "could not convert string to float: " ++ Text.quotedCodes text
  | .emptyNumber => "string index out of range"
  | .wideFactor => "int too large to convert to float"
  | .notATime => "'NoneType' object has no attribute 'groupdict'"
  | .timeOfMapping => "expected string or bytes-like object, got 'list'"
  | .outOfRange part => part.message
  | .notATruthValue word => Text.quotedCodes word

/-- The word for the kind of failure. -/
def Fault.label : Fault → String
  | .tooDeep => "RecursionError"
  | .emptyNumber => "IndexError"
  | .wideFactor => "OverflowError"
  | .notATime => "AttributeError"
  | .timeOfMapping => "TypeError"
  | .notATruthValue _ => "KeyError"
  | .wideCharacter code => if code < maxCode then "ValueError" else "OverflowError"
  | _ => "ValueError"

/-- Whether the fault lies in the text that is checked, so that a check answers no to it.
Other faults end the check itself. -/
def Fault.isRefusal : Fault → Bool
  | .tooDeep | .emptyNumber | .wideFactor | .notATime | .timeOfMapping | .notATruthValue _ => false
  | .wideCharacter code => code < maxCode
  | _ => true

end SignerPlugin.Yaml
