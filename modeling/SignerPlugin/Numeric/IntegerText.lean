import SignerPlugin.Json.Reader
import SignerPlugin.Text.Blank

/-! Integers in texts. A text is an integer as a document would write it, or becomes one when
blanks around it, a plus sign, zeros in front, a fraction of zeros and single underscores are
taken away. -/

namespace SignerPlugin.Numeric

/-- What a text is as an integer. -/
inductive IntegerText
  | unclear
  /-- There are more digits than are read. -/
  | tooLong
  | number (n : Int)
  deriving DecidableEq, Repr

namespace IntegerText

/-- A text that is an integer as documents write it. Too many digits are noticed before what
follows them. -/
def ofPlain (text : List Char) : IntegerText :=
  let (negative, unsigned) := match text with
    | '-' :: rest => (true, rest)
    | rest => (false, rest)
  let digits := unsigned.takeWhile Char.isDigit
  let size : Int := Json.digitsValue digits
  if digits.isEmpty then .unclear
  else if digits.head? = some '0' then
    if unsigned.length = 1 then .number 0 else .unclear
  else if Json.maxDigits < digits.length + (if negative then 1 else 0) then .tooLong
  else if digits.length < unsigned.length then .unclear
  else .number (if negative then -size else size)

/-- The text from its first digit on that counts, given the character before it. Underscores
may stand anywhere among zeros in front. -/
private def afterZeros (last : Char) : List Char → Option (List Char)
  | [] => some [last]
  | c :: rest =>
    if c = '0' || c = '_' then afterZeros c rest
    else if c.isDigit then some (c :: rest)
    else if c = '.' then some (last :: '.' :: rest)
    else none

/-- The text without zeros in front; a negative one keeps them. -/
def withoutZeros? : List Char → Option (List Char)
  | '0' :: rest => afterZeros '0' rest
  | c :: rest => if c.isDigit || c = '-' then some (c :: rest) else none
  | [] => none

/-- The text without a fraction of zeros, of which there must be one at least. -/
def withoutFraction (text : List Char) : List Char :=
  let whole := text.takeWhile (· ≠ '.')
  let fraction := text.drop (whole.length + 1)
  if !fraction.isEmpty && fraction.all (· = '0') then whole else text

/-- Whether two underscores stand side by side. -/
private def hasDoubled : List Char → Bool
  | '_' :: '_' :: _ => true
  | _ :: rest => hasDoubled rest
  | [] => false

/-- The text without underscores, which stand singly and inside it. -/
def withoutBars (text : List Char) : List Char :=
  if text.head? = some '_' || text.getLast? = some '_' || hasDoubled text then text
  else text.filter (· ≠ '_')

/-- The text that is left when all is taken away that may be. -/
def plain? (text : List Char) : Option (List Char) := do
  let unsigned ← match Text.trim text with
    | '+' :: rest => if rest.head? = some '-' then none else some rest
    | rest => some rest
  return withoutBars (withoutFraction (← withoutZeros? unsigned))

end IntegerText

/-- What a text is as an integer. -/
def IntegerText.ofText (text : List Char) : IntegerText :=
  match ofPlain text with
  | .unclear => ((plain? text).map ofPlain).getD .unclear
  | found => found

end SignerPlugin.Numeric
