import SignerPlugin.Bytes
import SignerPlugin.Path

/-! What scripts work on: texts of letters, each of which stands for one byte. -/

namespace SignerPlugin.Script

/-- A text with one letter for each byte. -/
abbrev Letters := List Char

namespace Letters

def ofBytes (bytes : Bytes) : Letters := bytes.map fun byte => Char.ofNat byte.toNat

def toBytes (letters : Letters) : Bytes := letters.map fun c => UInt8.ofNat c.toNat

/-- The letters of the UTF-8 form of a text. -/
def ofText (text : String) : Letters := ofBytes (Bytes.ofText text)

/-- The text whose UTF-8 form the letters are, or the letters themselves if there is none. -/
def toText (letters : Letters) : String :=
  (Bytes.text? letters.toBytes).getD (String.ofList letters)

def toPath (letters : Letters) : Path := Path.ofText letters.toText

/-- The decimal digits of a number. -/
def ofNat (n : Nat) : Letters := (toString n).toList

def ofInt (n : Int) : Letters := (toString n).toList

/-- The number that decimal digits write. -/
def number? (letters : Letters) : Option Nat :=
  if letters.isEmpty || !letters.all Char.isDigit then none
  else some (letters.foldl (fun sum c => sum * 10 + (c.toNat - 48)) 0)

/-- The number that decimal digits write, with a sign or without. -/
def integer? : Letters → Option Int
  | '-' :: rest => (number? rest).map fun n => -(n : Int)
  | '+' :: rest => (number? rest).map Int.ofNat
  | letters => (number? letters).map Int.ofNat

/-- The lines of a text; a last line without an end counts. -/
def lines (letters : Letters) : List Letters :=
  let parts := letters.splitOn '\n'
  if parts.getLast? = some [] then parts.dropLast else parts

/-- The lines of a text with their ends. -/
def rows : Letters → List Letters
  | [] => []
  | c :: rest =>
    if c = '\n' then [c] :: rows rest
    else match rows rest with
      | row :: more => (c :: row) :: more
      | [] => [[c]]

/-- The text of lines, each with its end. -/
def ofLines (lines : List Letters) : Letters := lines.flatMap (· ++ ['\n'])

/-- The text without the line ends behind it. -/
def chomp (letters : Letters) : Letters := (letters.reverse.dropWhile (· = '\n')).reverse

/-- The text, and what is left of it when one letter after the other is taken away. -/
def endings : Letters → List Letters
  | [] => [[]]
  | c :: rest => (c :: rest) :: endings rest

def hexDigit (n : Nat) : Char := Char.ofNat (if n < 10 then 48 + n else 87 + n)

end Letters

def isBlank (c : Char) : Bool := c = ' ' || c = '\t'

/-- Whether a letter is blank or ends a line or page. -/
def isSpace (c : Char) : Bool := isBlank c || (10 ≤ c.toNat && c.toNat ≤ 13)

/-- Whether a name may begin with the letter. -/
def startsName (c : Char) : Bool := c.isAlpha || c = '_'

def isNameChar (c : Char) : Bool := c.isAlphanum || c = '_'

def isName : Letters → Bool
  | c :: rest => startsName c && rest.all isNameChar
  | [] => false

end SignerPlugin.Script
