import SignerPlugin.Script.Pattern

/-! Regular expressions, in their basic spelling, where most signs need a backslash to be
special, and in their extended one. Of all matches the leftmost counts, and of these the
longest. -/

namespace SignerPlugin.Script

inductive Regular
  | nothing
  | set (negated : Bool) (members : List Member)
  | start
  | finish
  /-- Where a word begins or ends; only where it begins, or only where it ends, if told so. -/
  | edge (begins ends : Bool)
  | group (number : Nat) (inner : Regular)
  /-- What a group has matched before. -/
  | again (number : Nat)
  | both (first second : Regular)
  | either (first second : Regular)
  | repeated (inner : Regular) (least : Nat) (most : Option Nat)
  deriving Repr

namespace Regular

inductive Token
  | atom (regular : Regular)
  | opening
  | closing
  | bar
  | times (least : Nat) (most : Option Nat)
  deriving Repr

def letter (c : Char) : Regular := .set false [.range c c]

/-- The bounds of a repetition in front of its closing sign, and what is left behind that. -/
def bounds? (closing : Letters) (text : Letters) : Option (Nat × Option Nat × Letters) := do
  let first := text.takeWhile Char.isDigit
  let rest := text.drop first.length
  let (least, most, rest) ← match rest with
    | ',' :: rest =>
      let second := rest.takeWhile Char.isDigit
      some ((Letters.number? first).getD 0, Letters.number? second, rest.drop second.length)
    | rest => (Letters.number? first).map fun n => (n, some n, rest)
  if closing.isPrefixOf rest then return (least, most, rest.drop closing.length) else none

/-- The classes that a letter behind a backslash names. -/
def named? : Char → Option Regular
  | 'w' => some (.set false [.named "alnum".toList, .range '_' '_'])
  | 'W' => some (.set true [.named "alnum".toList, .range '_' '_'])
  | 's' => some (.set false [.named "space".toList])
  | 'S' => some (.set true [.named "space".toList])
  | 'b' => some (.edge true true)
  | '<' => some (.edge true false)
  | '>' => some (.edge false true)
  | 'n' => some (letter '\n')
  | 't' => some (letter '\t')
  | _ => none

/-- The token behind a backslash. -/
def escaped (extended : Bool) (c : Char) (rest : Letters) : Option (Token × Letters) :=
  if c.isDigit && c ≠ '0' then some (.atom (.again (c.toNat - 48)), rest)
  else match named? c with
    | some regular => some (.atom regular, rest)
    | none =>
      if extended then some (.atom (letter c), rest)
      else match c with
        | '(' => some (.opening, rest)
        | ')' => some (.closing, rest)
        | '|' => some (.bar, rest)
        | '+' => some (.times 1 none, rest)
        | '?' => some (.times 0 (some 1), rest)
        | '{' => (bounds? ['\\', '}'] rest).map fun (least, most, rest) => (.times least most, rest)
        | c => some (.atom (letter c), rest)

/-- The tokens of a text, at the beginning of an expression or within it. The fuel bounds the
letters. -/
def tokens? (extended : Bool) : (fuel : Nat) → (first : Bool) → Letters → Option (List Token)
  | 0, _, _ => none
  | _, _, [] => some []
  | fuel + 1, first, c :: rest => do
    let (token, rest) ← match c, rest with
      | '\\', d :: rest => escaped extended d rest
      | '\\', [] => none
      | '.', rest => some (.atom (.set true [.range '\n' '\n']), rest)
      | '[', rest =>
        let (negated, inner) := match rest with
          | '^' :: inner => (true, inner)
          | inner => (false, inner)
        (Pattern.members? (inner.length + 1) true (inner.map fun c => ⟨c, false⟩)).map
          fun (members, left) =>
          (.atom (.set negated members), left.map (·.letter))
      | '*', rest => some (if first then .atom (letter '*') else .times 0 none, rest)
      | '^', rest => some (.atom (if first || extended then .start else letter '^'), rest)
      | '$', rest =>
        let isLast :=
          extended || rest.isEmpty || ['\\', ')'].isPrefixOf rest || ['\\', '|'].isPrefixOf rest
        some (.atom (if isLast then .finish else letter '$'), rest)
      | c, rest =>
        if !extended then some (.atom (letter c), rest)
        else match c with
          | '(' => some (.opening, rest)
          | ')' => some (.closing, rest)
          | '|' => some (.bar, rest)
          | '+' => some (.times 1 none, rest)
          | '?' => some (.times 0 (some 1), rest)
          | '{' => some (match bounds? ['}'] rest with
            | some (least, most, rest) => (.times least most, rest)
            | none => (.atom (letter '{'), rest))
          | c => some (.atom (letter c), rest)
    let starts := match token with
      | .opening | .bar => true
      | .atom .start => true
      | _ => false
    return token :: (← tokens? extended fuel starts rest)

mutual

/-- Alternatives up to a closing parenthesis or the end, the number of the next group, and
what is left. -/
def alternatives : (fuel : Nat) → (next : Nat) → List Token → Option (Regular × Nat × List Token)
  | 0, _, _ => none
  | fuel + 1, next, input => do
    let (first, next, rest) ← chain fuel next .nothing input
    match rest with
    | .bar :: rest =>
      let (second, next, rest) ← alternatives fuel next rest
      return (.either first second, next, rest)
    | rest => return (first, next, rest)

/-- What follows an expression in the same alternative. -/
def chain : (fuel : Nat) → (next : Nat) → Regular → List Token → Option (Regular × Nat × List Token)
  | 0, _, _, _ => none
  | fuel + 1, next, before, input => match input with
    | .atom regular :: rest => times fuel next before regular rest
    | .opening :: rest => do
      match ← alternatives fuel (next + 1) rest with
      | (inner, after, .closing :: rest) => times fuel after before (.group next inner) rest
      | _ => none
    | input => some (before, next, input)

/-- The repetitions behind an expression, and what follows. -/
def times : (fuel : Nat) → (next : Nat) → (before last : Regular) → List Token →
    Option (Regular × Nat × List Token)
  | 0, _, _, _, _ => none
  | fuel + 1, next, before, last, input => match input with
    | .times least most :: rest => times fuel next before (.repeated last least most) rest
    | input => chain fuel next (.both before last) input

end

/-- The regular expression that a text writes. -/
def ofLetters? (extended : Bool) (text : Letters) : Option Regular := do
  let tokens ← tokens? extended (text.length + 1) true text
  match ← alternatives (4 * tokens.length + 8) 1 tokens with
  | (regular, _, []) => return regular
  | _ => none

/-- Where matching stands in a text. -/
structure Spot where
  before : Option Char
  rest : Letters
  captures : List (Nat × Letters) := []

def isWordEdge (begins ends : Bool) (spot : Spot) : Bool :=
  let left := spot.before.any isNameChar
  let right := spot.rest.head?.any isNameChar
  (begins && !left && right) || (ends && left && !right)

/-- The text between a spot and a later one. -/
def between (spot later : Spot) : Letters := spot.rest.take (spot.rest.length - later.rest.length)

/-- Where a spot is after some letters. -/
def Spot.pass (spot : Spot) (count : Nat) : Spot :=
  { spot with
    rest := spot.rest.drop count
    before := if count = 0 then spot.before else spot.rest[count - 1]? }

/-- The spots that an expression leads to. The fuel bounds the depth. -/
def run (folded : Bool) : (fuel : Nat) → Regular → Spot → List Spot
  | 0, _, _ => []
  | fuel + 1, regular, spot => match regular with
    | .nothing => [spot]
    | .set negated members => match spot.rest with
      | c :: rest =>
        let has (c : Char) : Bool := members.any (·.has c)
        if (has c || (folded && (has c.toLower || has c.toUpper))) != negated then
          [{ spot with before := some c, rest }]
        else []
      | [] => []
    | .start => if spot.before.isNone then [spot] else []
    | .finish => if spot.rest.isEmpty then [spot] else []
    | .edge begins ends => if isWordEdge begins ends spot then [spot] else []
    | .group number inner =>
      (run folded fuel inner spot).map fun later =>
        { later with captures := (number, between spot later) :: later.captures }
    | .again number => match spot.captures.lookup number with
      | some text => if text.isPrefixOf spot.rest then [spot.pass text.length] else []
      | none => []
    | .both first second => (run folded fuel first spot).flatMap (run folded fuel second)
    | .either first second => run folded fuel first spot ++ run folded fuel second spot
    | .repeated inner least most =>
      if most = some 0 then [spot]
      else
        let further := (run folded fuel inner spot).flatMap fun later =>
          if later.rest.length = spot.rest.length then []
          else run folded fuel (.repeated inner (least - 1) (most.map (· - 1))) later
        if least = 0 then further ++ [spot]
        else if further.isEmpty then (run folded fuel inner spot).filter
          (·.rest.length = spot.rest.length)
        else further

/-- A part of a text that matches. -/
structure Match where
  before : Letters
  text : Letters
  after : Letters
  captures : List (Nat × Letters)

/-- The longest of the spots. -/
def longest? : List Spot → Option Spot
  | [] => none
  | spot :: spots => match longest? spots with
    | none => some spot
    | some other => if other.rest.length < spot.rest.length then some other else some spot

/-- The longest match at a spot. -/
def matchAt (regular : Regular) (folded : Bool) (depth : Nat) (spot : Spot) : Option Match :=
  (longest? (run folded depth regular spot)).map fun later =>
    ⟨[], between spot later, later.rest, later.captures⟩

/-- The first match from a spot on, with the letters before it. -/
def searchFrom (regular : Regular) (folded : Bool) (depth : Nat) :
    (ahead : Letters) → Spot → Option Match
  | [], spot => matchAt regular folded depth spot
  | c :: ahead, spot =>
    match matchAt regular folded depth spot with
    | some found => some found
    | none => (searchFrom regular folded depth ahead (spot.pass 1)).map fun found =>
      { found with before := c :: found.before }

/-- The number of parts of an expression. -/
def size : Regular → Nat
  | .group _ inner | .repeated inner _ _ => inner.size + 1
  | .both a b | .either a b => a.size + b.size + 1
  | _ => 1

/-- The first match in a text that stands behind a letter, or at the beginning of a line. -/
def search? (regular : Regular) (folded : Bool) (before : Option Char) (text : Letters) :
    Option Match :=
  searchFrom regular folded ((text.length + 2) * (regular.size + 1)) text ⟨before, text, []⟩

end Regular
end SignerPlugin.Script
