import SignerPlugin.Yaml.Character
import SignerPlugin.Yaml.Fault

/-! Block scalars: indented lines that are kept as they are or folded into one, with a header
that says what becomes of the line ends behind them. -/

namespace SignerPlugin.Yaml.BlockScalar

/-- What becomes of the line ends at the end: one is kept, or none, or all. -/
inductive Chomping
  | clip
  | strip
  | keep
  deriving DecidableEq, Repr

/-- The header of a block scalar. -/
structure Header where
  chomping : Chomping := .clip
  /-- How far the lines are indented beyond what is around them, if that is said. -/
  indent : Option Nat := none
  deriving Repr

/-- The sign that the input goes on with, if it is one. -/
def sign? : List Char → Option Chomping × List Char
  | '+' :: rest => (some .keep, rest)
  | '-' :: rest => (some .strip, rest)
  | input => (none, input)

/-- The digit that the input goes on with, if it is one. -/
def digit? : List Char → Option Nat × List Char
  | c :: rest => if c.isDigit then (some (c.toNat - 48), rest) else (none, c :: rest)
  | [] => (none, [])

/-- Reads a header: a sign and a digit in either order. -/
def readHeader (input : List Char) : Except Fault (Header × List Char) := do
  let (before, rest) := sign? input
  let (indent, rest) := digit? rest
  let (after, rest) := if before.isSome || indent.isNone then (none, rest) else sign? rest
  if indent = some 0 || !endsWordWithoutTab rest then .error .malformed
  else match nextLine? rest with
    | some rest => return (⟨(before.or after).getD .clip, indent⟩, rest)
    | none => .error .malformed

/-- The line ends before the next line with text, the greatest indentation seen, the column reached
and the input from there on. -/
def measure : (widest column : Nat) → List Char → List Char × Nat × Nat × List Char
  | widest, column, [] => ([], widest, column, [])
  | widest, column, c :: rest =>
    if c = ' ' then measure (max widest (column + 1)) (column + 1) rest
    else if isBreak c then
      let (more, found) := measure widest 0 rest
      (breakText c :: more, found)
    else ([], widest, column, c :: rest)

/-- The line ends before the next line that is indented by more than blanks up to `indent`, with the
column reached and the input from there on. -/
def lineEnds (indent : Nat) : (column : Nat) → List Char → List Char × Nat × List Char
  | column, [] => ([], column, [])
  | column, c :: rest =>
    if c = ' ' && column < indent then lineEnds indent (column + 1) rest
    else if isBreak c then
      let (more, found) := lineEnds indent 0 rest
      (breakText c :: more, found)
    else ([], column, c :: rest)

/-- What stands between two lines with text. Only lines that do not begin with a blank are
folded. -/
def joint (isFolded : Bool) (line : List Char) (lineEnd : Option Char)
    (breaks next : List Char) : List Char :=
  let solid (text : List Char) := !text.head?.any isBlank
  if isFolded && lineEnd.map breakText = some '\n' && solid line && solid next then
    if breaks.isEmpty then [' '] else []
  else (lineEnd.map breakText).toList

/-- Reads lines from one with text on: their text, the line end of the last of them, the line ends
behind it, and the input after those. The fuel bounds the number of lines. -/
def readLines (isFolded : Bool) (indent : Nat) :
    (fuel : Nat) → List Char → List Char × Option Char × List Char × List Char
  | 0, input => ([], none, [], input)
  | fuel + 1, input =>
    let line := input.takeWhile fun c => !isBreak c
    let behind := input.dropWhile fun c => !isBreak c
    let (breaks, column, rest) := lineEnds indent 0 (behind.drop 1)
    if column = indent && !rest.isEmpty then
      let (text, ending) := readLines isFolded indent fuel rest
      (line ++ joint isFolded line behind.head? breaks rest ++ breaks ++ text, ending)
    else (line, behind.head?, breaks, rest)

/-- The text with what its header keeps of the line ends behind it. -/
def chomped (chomping : Chomping) (text : List Char) (lineEnd : Option Char)
    (breaks : List Char) : List Char :=
  let last := (lineEnd.map breakText).toList
  match chomping with
  | .strip => text
  | .clip => text ++ last
  | .keep => text ++ last ++ breaks

/-- Reads a block scalar from behind its indicator on. What is around it is indented by `around`. -/
def read (isFolded : Bool) (around : Int) (input : List Char) :
    Except Fault (List Char × List Char) := do
  let (header, rest) ← readHeader input
  let least := max 1 (around + 1).toNat
  let (indent, breaks, column, rest) := match header.indent with
    | some more =>
      let indent := least + more - 1
      (indent, lineEnds indent 0 rest)
    | none =>
      let (breaks, widest, found) := measure 0 0 rest
      (max least widest, breaks, found)
  if column = indent && !rest.isEmpty then
    let (text, lineEnd, after, rest) := readLines isFolded indent (rest.length + 1) rest
    return (breaks ++ chomped header.chomping text lineEnd after, rest)
  else return (chomped header.chomping [] none breaks, rest)

end SignerPlugin.Yaml.BlockScalar
