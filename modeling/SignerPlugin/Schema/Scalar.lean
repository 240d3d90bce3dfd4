import SignerPlugin.Base64
import SignerPlugin.HashFunc
import SignerPlugin.Numeric.Binary64
import SignerPlugin.Numeric.IntegerText
import SignerPlugin.Numeric.Word
import SignerPlugin.Schema.Codec
import SignerPlugin.Time.MessageTime

/-! The values that messages are made of: texts, byte strings, truth values, hash functions
and points in time. Reading takes numbers and the texts of numbers for one another where no
doubt can arise. -/

namespace SignerPlugin.Schema

open Numeric

/-- The number that a tree stands for, if it is one with a fraction or an exponent. -/
def binary? : Json → Option Binary64
  | .decimal mantissa exponent => some (.ofDecimal mantissa exponent)
  | .nan => some .nan
  | .infinite negative => some (.infinite negative)
  | _ => none

/-- The truth value that an integer stands for. -/
def boolOfInt (n : Int) : Checked Bool :=
  if n = 0 then .ok false
  else if n = 1 then .ok true
  else if fits64 n then .fail .unclearBool
  else .fail .notABool

/-- The truth value that a word stands for, in capital or small letters. -/
def boolOfWord? (word : String) : Option Bool :=
  let small := word.map Char.toLower
  if ["0", "off", "f", "false", "n", "no"].contains small then some false
  else if ["1", "on", "t", "true", "y", "yes"].contains small then some true
  else none

/-- The hash function that a number stands for. -/
def hashOfInt (n : Int) : Checked HashFunc :=
  match HashFunc.ofId? n with
  | some hash => .ok hash
  | none => .fail (if fits64 n then .notAMember else .wideNumber)

/-- What a failed reading of a time is in a report. -/
def causeOfTime : Time.MessageTime.Fault → Cause
  | .notATime => .notATime
  | .wideInteger n => .wideTime n
  | .outsideCalendar => .unclearTime
  | .notADate => .notADate

namespace Codec

/-- A text is a JSON string. -/
def text : Codec String :=
  ⟨fun tree => match tree with
    | .str text => .ok text
    | _ => .fail .notAString,
    fun _ text => .str text⟩

/-- A byte string is a JSON string in base64. -/
def bytes : Codec Bytes :=
  ⟨fun tree => match tree with
    | .str text => match Base64.decode text with
      | .ok bytes => .ok bytes
      | .error fault => .fail (.refused (.ofString fault.message))
    | _ => .fail .notBytes,
    fun _ bytes => .str (Base64.encode bytes)⟩

/-- A truth value may also be given as 0, 1 or a word. -/
def bool : Codec Bool :=
  ⟨fun tree => match tree with
    | .bool value => .ok value
    | .int n => boolOfInt n
    | .str word => match boolOfWord? word with
      | some value => .ok value
      | none => .fail .unclearBool
    | tree => match (binary? tree).bind Binary64.toInt? with
      | some n => if fits64 (-n) then boolOfInt n else .fail .notABool
      | none => .fail .notABool,
    fun _ value => .bool value⟩

/-- A hash function is its number, which may also be given as a text. -/
def hash : Codec HashFunc :=
  ⟨fun tree => match tree with
    | .int n => hashOfInt n
    | .str text => match IntegerText.ofText text.toList with
      | .number n => hashOfInt n
      | .tooLong => .fail .wideNumber
      | .unclear => .fail .notAMember
    | tree => match ((binary? tree).bind Binary64.toInt?).bind HashFunc.ofId? with
      | some hash => .ok hash
      | none => .fail .notAMember,
    fun _ hash => .int hash.id⟩

/-- A point in time is a text or a number. -/
def time : Codec Time.Timestamp :=
  ⟨fun tree =>
    let outcome := match tree with
      | .str text => Time.MessageTime.ofText text
      | .int n => Time.MessageTime.ofInt n
      | tree => match binary? tree with
        | some x => Time.MessageTime.ofBinary x
        | none => .error .notATime
    match outcome with
    | .ok time => .ok time
    | .error fault => .fail (causeOfTime fault),
    fun _ time => .str time.toText⟩

/-- One of several named things. -/
def named {α : Type} (all : List α) (name : α → String) : Codec α :=
  ⟨fun tree => match tree with
    | .str text => match all.find? fun value => name value = text with
      | some value => .ok value
      | none => .fail .notAMember
    | _ => .fail .notAMember,
    fun _ value => .str (name value)⟩

end Codec
end SignerPlugin.Schema
