import SignerPlugin.Yaml.BlockScalar
import SignerPlugin.Yaml.Plain
import SignerPlugin.Yaml.Property
import SignerPlugin.Yaml.QuotedScalar

/-! From characters to tokens. Whether a scalar or a bracket begins a key shows only at the
colon behind it: until then it is a candidate, and the colon puts the tokens that are due in
front of it. -/

namespace SignerPlugin.Yaml

/-- A token that may turn out to begin a key. -/
structure Candidate where
  /-- How many tokens stand before it. -/
  token : Nat
  /-- Whether there can be nothing else in its place. -/
  required : Bool
  index : Nat
  line : Nat
  column : Nat
  deriving Repr

/-- Where the reading of a text stands. -/
structure Lexer where
  rest : List Char
  index : Nat := 0
  line : Nat := 0
  column : Nat := 0
  /-- The number of flow collections around. -/
  depth : Nat := 0
  /-- The column of the innermost block collection. -/
  indent : Int := -1
  /-- Those of the block collections around it, from the inside out. -/
  outer : List Int := []
  /-- Whether a key may begin here. -/
  keyAllowed : Bool := true
  /-- The candidate of each depth that has one. -/
  candidates : List (Nat × Candidate) := []
  tokens : Array Token := #[]

namespace Lexer

/-- A key stands on one line and is not longer than this. -/
def maxKeyLength : Nat := 1024

def inFlow (s : Lexer) : Bool := s.depth ≠ 0

/-- Behind one more character. A byte order mark takes no room. -/
def step (s : Lexer) (c : Char) (rest : List Char) : Lexer :=
  if isBreak c then { s with rest, index := s.index + 1, line := s.line + 1, column := 0 }
  else
    { s with
      rest
      index := s.index + 1
      column := if c = '\uFEFF' then s.column else s.column + 1 }

/-- Behind so many more characters. -/
def skip : (count : Nat) → Lexer → Lexer
  | 0, s => s
  | count + 1, s => match s.rest with
    | [] => s
    | c :: rest => skip count (s.step c rest)

/-- At the place where this is the rest of the input. -/
def moveTo (s : Lexer) (rest : List Char) : Lexer := s.skip (s.rest.length - rest.length)

def emit (s : Lexer) (token : Token) : Lexer := { s with tokens := s.tokens.push token }

/-- The same with tokens put in front of one that is there already. -/
def insert (s : Lexer) (index : Nat) (tokens : Array Token) : Lexer :=
  { s with tokens := s.tokens.extract 0 index ++ tokens ++ s.tokens.extract index s.tokens.size }

/-- The input behind blanks, comments and line ends, and whether there were line ends. -/
def afterGap : (comment : Bool) → List Char → Bool × List Char
  | _, [] => (false, [])
  | comment, c :: rest =>
    if isBreak c then (true, (afterGap false rest).2)
    else if comment || c = ' ' then afterGap comment rest
    else if c = '#' then afterGap true rest
    else (false, c :: rest)

def skipGap (s : Lexer) : Lexer :=
  let (crossed, rest) := afterGap false s.rest
  { s.moveTo rest with keyAllowed := s.keyAllowed || (crossed && !s.inFlow) }

/-- Whether a candidate is not too far back. -/
def isFresh (s : Lexer) (candidate : Candidate) : Bool :=
  candidate.line = s.line && s.index ≤ candidate.index + maxKeyLength

/-- Gives up the candidates that are too far back. -/
def dropStale (s : Lexer) : Except Fault Lexer :=
  if s.candidates.any fun (_, candidate) =>
    candidate.required && !s.isFresh candidate then .error .malformed
  else .ok { s with candidates := s.candidates.filter fun (_, candidate) => s.isFresh candidate }

/-- The number of tokens that are certain: the first candidate and those behind it wait for
what follows. -/
def certain (s : Lexer) : Nat :=
  s.candidates.foldl (fun count (_, candidate) => if s.isFresh candidate then min count
    candidate.token else count)
    s.tokens.size

/-- Gives up the candidate of this depth. -/
def dropCandidate (s : Lexer) : Except Fault Lexer :=
  if s.candidates.any fun (depth, candidate) =>
    depth = s.depth && candidate.required then .error .malformed
  else .ok { s with candidates := s.candidates.filter (·.1 ≠ s.depth) }

/-- Makes the next token a candidate, if a key may begin here. -/
def markCandidate (s : Lexer) : Except Fault Lexer :=
  if s.keyAllowed then do
    let cleared ← s.dropCandidate
    let required := !s.inFlow && s.indent = s.column
    return { cleared with
      candidates := (s.depth, ⟨s.tokens.size, required, s.index, s.line, s.column⟩) ::
        cleared.candidates }
  else .ok s

/-- Ends the block collections that are indented further than a column, of those given. -/
def unwindTo (column : Int) : List Int → Lexer → Lexer
  | [], s => s
  | around :: outer, s =>
    if column < s.indent then unwindTo column outer
      ({ s with indent := around, outer }.emit .blockEnd)
    else s

/-- Ends the block collections that are indented further than a column; flow collections have no
indentation. -/
def unwind (s : Lexer) (column : Int) : Lexer := if s.inFlow then s else unwindTo column s.outer s

/-- Whether a block collection begins at a column, and the state inside of it. -/
def indentTo (s : Lexer) (column : Nat) : Bool × Lexer :=
  if s.indent < column then (true, { s with indent := column, outer := s.indent :: s.outer })
  else (false, s)

/-- Begins a block collection at a column if it is further in. -/
def openBlock (s : Lexer) (column : Nat) (start : Token) : Lexer :=
  if s.inFlow then s
  else match s.indentTo column with
    | (true, s) => s.emit start
    | (false, s) => s

/-- What belongs to no block begins here. -/
def leaveBlocks (s : Lexer) : Except Fault Lexer := do
  let s ← (s.unwind (-1)).dropCandidate
  return { s with keyAllowed := false }

def readDirective (s : Lexer) : Except Fault Lexer := do
  let s ← s.leaveBlocks
  let (directive, rest) ← Property.readDirective (s.rest.drop 1)
  return (s.emit (.directive directive)).moveTo rest

def readMark (s : Lexer) (token : Token) : Except Fault Lexer := do
  let s ← s.leaveBlocks
  return (s.emit token).skip 3

def openFlow (s : Lexer) (token : Token) : Except Fault Lexer := do
  let s ← s.markCandidate
  return { (s.emit token).skip 1 with depth := s.depth + 1, keyAllowed := true }

def closeFlow (s : Lexer) (token : Token) : Except Fault Lexer := do
  let s ← s.dropCandidate
  if s.depth = 0 then throw .malformed
  return { (s.emit token).skip 1 with depth := s.depth - 1, keyAllowed := false }

def readComma (s : Lexer) : Except Fault Lexer := do
  let s ← s.dropCandidate
  return { (s.emit .comma).skip 1 with keyAllowed := true }

/-- A hyphen before an item; it may stand where a key may. -/
def readDash (s : Lexer) : Except Fault Lexer := do
  if !s.inFlow && !s.keyAllowed then throw .malformed
  let s ← (s.openBlock s.column .blockSequence).dropCandidate
  return { (s.emit .dash).skip 1 with keyAllowed := true }

/-- A question mark before a key. -/
def readKey (s : Lexer) : Except Fault Lexer := do
  if !s.inFlow && !s.keyAllowed then throw .malformed
  let s ← (s.openBlock s.column .blockMapping).dropCandidate
  return { (s.emit .key).skip 1 with keyAllowed := !s.inFlow }

/-- A colon: it makes the candidate a key, or belongs to a key behind a question mark. -/
def readValue (s : Lexer) : Except Fault Lexer := do
  match s.candidates.lookup s.depth with
  | some candidate =>
    let (isFirst, inside) := if s.inFlow then (false, s) else s.indentTo candidate.column
    let s := inside.insert candidate.token (if isFirst then #[.blockMapping, .key] else #[.key])
    return { (s.emit .value).skip 1 with
      candidates := s.candidates.filter (·.1 ≠ s.depth), keyAllowed := false }
  | none =>
    if !s.inFlow && !s.keyAllowed then throw .malformed
    let s ← (s.openBlock s.column .blockMapping).dropCandidate
    return { (s.emit .value).skip 1 with keyAllowed := !s.inFlow }

/-- A token that may begin a key, and behind which none begins. -/
def readWith (s : Lexer) (read : Except Fault (Token × List Char)) : Except Fault Lexer := do
  let s ← s.markCandidate
  let (token, rest) ← read
  return { (s.emit token).moveTo rest with keyAllowed := false }

def readBlockScalar (s : Lexer) (isFolded : Bool) : Except Fault Lexer := do
  let s ← s.dropCandidate
  let (text, rest) ← BlockScalar.read isFolded s.indent (s.rest.drop 1)
  return { (s.emit (.scalar (.ofChars text) false)).moveTo rest with keyAllowed := true }

/-- A plain scalar; when it ended at the beginning of a line, a key may begin there. -/
def readPlain (s : Lexer) : Except Fault Lexer := do
  let s ← s.markCandidate
  let plain := Plain.read s.inFlow (s.indent + 1) s.rest
  return { (s.emit (.scalar
    (.ofChars plain.text) true)).moveTo plain.rest with keyAllowed := plain.crossed }

/-- Whether a plain scalar can begin with a character. -/
def startsPlain (inFlow : Bool) (c : Char) (rest : List Char) : Bool :=
  !(isBlank c || isBreak c || ['-', '?', ':', ',', '[', ']', '{', '}', '#', '&', '*', '!', '|',
    '>', '\'', '"', '%', '@', '\x60'].contains c) ||
    (!endsWord rest && (c = '-' || (!inFlow && (c = '?' || c = ':'))))

/-- Reads the token that begins with a character. -/
def readToken (s : Lexer) (c : Char) (rest : List Char) : Except Fault Lexer :=
  let atMargin := s.column = 0
  let indicates := s.inFlow || endsWord rest
  if c = '%' && atMargin then s.readDirective
  else if atMargin && isTriple '-' s.rest then s.readMark .documentStart
  else if atMargin && isTriple '.' s.rest then s.readMark .documentEnd
  else if c = '[' then s.openFlow .flowSequence
  else if c = '{' then s.openFlow .flowMapping
  else if c = ']' then s.closeFlow .flowSequenceEnd
  else if c = '}' then s.closeFlow .flowMappingEnd
  else if c = ',' then s.readComma
  else if c = '-' && endsWord rest then s.readDash
  else if c = '?' && indicates then s.readKey
  else if c = ':' && indicates then s.readValue
  else if c = '*' then s.readWith
    ((Property.readName rest).map fun (name, rest) => (.alias name, rest))
  else if c = '&' then s.readWith
    ((Property.readName rest).map fun (name, rest) => (.anchor name, rest))
  else if c = '!' then s.readWith (Property.readTag s.rest)
  else if c = '|' && !s.inFlow then s.readBlockScalar false
  else if c = '>' && !s.inFlow then s.readBlockScalar true
  else if c = '\'' || c = '"' then
    s.readWith ((QuotedScalar.read c rest).map fun (text, rest) => (.scalar text false, rest))
  else if startsPlain s.inFlow c rest then s.readPlain
  else .error .malformed

/-- Reads one more token, and says whether the text ends with it. -/
def readNext (s : Lexer) : Except Fault (Bool × Lexer) := do
  let s ← s.skipGap.dropStale
  let s := s.unwind s.column
  match s.rest with
  | [] => return (true, (← s.leaveBlocks).emit .finish)
  | c :: rest => return (false, ← s.readToken c rest)

/-- Reads all tokens. Where one cannot be read the text breaks off behind those that are
certain. Each takes a character at least, of which the fuel bounds the number. -/
def readTokens : (fuel : Nat) → Lexer → Array Token
  | 0, s => s.tokens.push (.broken .malformed)
  | fuel + 1, s =>
    match s.readNext with
    | .error fault => (s.tokens.extract 0 s.certain).push (.broken fault)
    | .ok (true, s) => s.tokens
    | .ok (false, s) => readTokens fuel s

end Lexer

/-- The tokens of a text. A byte order mark may stand before it. -/
def Token.ofText (text : List Char) : List Token :=
  if text.all isAllowed then
    let text := if text.head? = some '\uFEFF' then text.drop 1 else text
    ((Lexer.mk text 0 0 0 0 (-1) [] true [] #[]).readTokens (text.length + 1)).toList
  else [.broken .malformed]

end SignerPlugin.Yaml
