import SignerPlugin.Yaml.Character

/-! Plain scalars: texts without quotes, which may run over several lines. -/

namespace SignerPlugin.Yaml

/-- What was read of a text: its characters, whether it ended at the beginning of a later line, and
the input behind it. -/
structure Plain where
  text : List Char
  crossed : Bool
  rest : List Char
  deriving Repr

namespace Plain

/-- Whether a character, seen with what follows it, ends a run of a plain scalar. -/
def endsRun (inFlow : Bool) (c : Char) (rest : List Char) : Bool :=
  isBlank c || isBreak c || (inFlow && [',', '?', '[', ']', '{', '}'].contains c) ||
    (c = ':' && (endsWord rest ||
      (inFlow && rest.head?.any fun d => [',', '[', ']', '{', '}'].contains d)))

/-- The characters up to the next blank or indicator, and the input from there on. -/
def run (inFlow : Bool) : List Char → List Char × List Char
  | [] => ([], [])
  | c :: rest =>
    if endsRun inFlow c rest then ([], c :: rest)
    else
      let (text, rest) := run inFlow rest
      (c :: text, rest)

/-- The gap between two runs. -/
structure Gap where
  /-- What stands for it in the text; nothing when the text does not go on. -/
  text : List Char
  /-- The column of the input after it, when it crossed a line end. -/
  column : Option Nat
  rest : List Char

/-- The line ends from here on, with the column reached; nothing when documents are parted there. -/
def lineEnds : (column : Nat) → List Char → Option (List Char) × Nat × List Char
  | column, [] => (some [], column, [])
  | column, c :: rest =>
    if c = ' ' then lineEnds (column + 1) rest
    else if isBreak c then
      if isDocumentMark rest then (none, 0, rest)
      else
        let (more, column, rest) := lineEnds 0 rest
        (more.map (breakText c :: ·), column, rest)
    else (some [], column, c :: rest)

/-- The gap that the input goes on with. -/
def gap (input : List Char) : Gap :=
  match input.dropWhile (· = ' ') with
  | [] => ⟨input, none, []⟩
  | c :: rest =>
    if !isBreak c then ⟨input.takeWhile (· = ' '), none, c :: rest⟩
    else if isDocumentMark rest then ⟨[], some 0, rest⟩
    else
      let (more, column, rest) := lineEnds 0 rest
      ⟨(more.map (folded c)).getD [], some column, rest⟩

/-- Whether the text goes on behind a gap. Outside of flow collections it must stay indented. -/
def continues (inFlow : Bool) (indent : Int) (gap : Gap) : Bool :=
  !gap.text.isEmpty && gap.rest.head? ≠ some '#' &&
    (inFlow || gap.column.all fun column => indent ≤ (column : Int)) &&
    !(run inFlow gap.rest).1.isEmpty

/-- Reads runs and the gaps between them. The fuel bounds the number of runs. -/
def readRuns (inFlow : Bool) (indent : Int) : (fuel : Nat) → List Char → Plain
  | 0, input => ⟨[], false, input⟩
  | fuel + 1, input =>
    let (text, rest) := run inFlow input
    let between := gap rest
    if continues inFlow indent between then
      let more := readRuns inFlow indent fuel between.rest
      ⟨text ++ between.text ++ more.text, more.crossed, more.rest⟩
    else ⟨text, between.column.isSome, between.rest⟩

/-- Reads a plain scalar whose later lines are indented by at least `indent`. -/
def read (inFlow : Bool) (indent : Int) (input : List Char) : Plain :=
  readRuns inFlow indent (input.length + 1) input

end Plain
end SignerPlugin.Yaml
