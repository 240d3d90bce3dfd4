import SignerPlugin.Json.Reader
import SignerPlugin.Text.CodePoint
import SignerPlugin.Yaml.Character
import SignerPlugin.Yaml.Fault

/-! Scalars between quotes. Lines are folded in both kinds; only double quotes know escapes,
and between single quotes a quote is written twice. -/

namespace SignerPlugin.Yaml.QuotedScalar

open Text (CodePoint CodeText)

/-- The characters that one-letter escapes stand for. -/
def plainEscapes : List (Char × Char) :=
  [('0', '\x00'), ('a', '\x07'), ('b', '\x08'), ('t', '\t'), ('\t', '\t'), ('n', '\n'),
    ('v', '\x0b'), ('f', '\x0c'), ('r', '\r'), ('e', '\x1b'), (' ', ' '), ('"', '"'),
    ('\\', '\\'), ('/', '/'), ('N', '\x85'), ('_', '\xa0'), ('L', '\u2028'), ('P', '\u2029')]

/-- How many digits follow the letter of an escape that gives a character's number. -/
def digitCount? (c : Char) : Option Nat :=
  if c = 'x' then some 2 else if c = 'u' then some 4 else if c = 'U' then some 8 else none

/-- The code point with a number. -/
def pointOfCode (code : Nat) : Except Fault CodePoint :=
  match CodePoint.ofNat? code with
  | some point => .ok point
  | none => .error (.wideCharacter code)

/-- The value of hexadecimal digits. -/
def hexNumber? (digits : List Char) : Option Nat :=
  digits.foldlM (fun sum c => (Json.hexValue? c).map (sum * 16 + ·)) 0

/-- The ends of the empty lines from here on, up to the text that follows them; nothing when
documents are parted there. -/
def lineEnds : List Char → Option (List Char × List Char)
  | [] => some ([], [])
  | c :: rest =>
    if isBlank c then lineEnds rest
    else if isBreak c then
      if isDocumentMark rest then none
      else (lineEnds rest).map fun (more, rest) => (breakText c :: more, rest)
    else some ([], c :: rest)

/-- The same, at the beginning of a line. -/
def nextLine (input : List Char) : Except Fault (List Char × List Char) :=
  if isDocumentMark input then .error .malformed
  else match lineEnds input with
    | some found => .ok found
    | none => .error .malformed

/-- The escape that follows a backslash: its text, and the input behind it. -/
def escape : List Char → Except Fault (CodeText × List Char)
  | [] => .error .malformed
  | c :: rest =>
    match plainEscapes.lookup c with
    | some plain => .ok ([.char plain], rest)
    | none => match digitCount? c with
      | some count =>
        if rest.length < count then .error .malformed
        else match hexNumber? (rest.take count) with
          | some code => (pointOfCode code).map fun point => ([point], rest.drop count)
          | none => .error .malformed
      | none =>
        if isBreak c then (nextLine rest).map fun (text, rest) => (.ofChars text, rest)
        else .error .malformed

/-- A stretch of blanks and line ends inside the quotes: its text, and the input behind it. -/
def gap (input : List Char) : Except Fault (List Char × List Char) :=
  match input.dropWhile isBlank with
  | [] => .error .malformed
  | c :: rest =>
    if isBreak c then (nextLine rest).map fun (more, rest) => (folded c more, rest)
    else .ok (input.takeWhile isBlank, c :: rest)

/-- Reads up to the closing quote. The fuel bounds the number of characters, escapes and gaps. -/
def readUpTo (quote : Char) : (fuel : Nat) → List Char → Except Fault (CodeText × List Char)
  | 0, _ | _, [] => .error .malformed
  | fuel + 1, c :: rest =>
    if c = quote then match rest with
      | d :: after =>
        if quote = '\'' && d = '\'' then
          (readUpTo quote fuel after).map fun (text, rest) => (.char d :: text, rest)
        else .ok ([], rest)
      | [] => .ok ([], [])
    else if isBlank c || isBreak c then do
      let (between, rest) ← gap (c :: rest)
      let (text, rest) ← readUpTo quote fuel rest
      return (.ofChars between ++ text, rest)
    else if c = '\\' && quote = '"' then do
      let (special, rest) ← escape rest
      let (text, rest) ← readUpTo quote fuel rest
      return (special ++ text, rest)
    else (readUpTo quote fuel rest).map fun (text, rest) => (.char c :: text, rest)

/-- Reads a scalar from behind its opening quote on. -/
def read (quote : Char) (input : List Char) : Except Fault (CodeText × List Char) :=
  readUpTo quote (input.length + 1) input

end SignerPlugin.Yaml.QuotedScalar
