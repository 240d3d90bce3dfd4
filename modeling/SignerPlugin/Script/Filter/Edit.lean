import SignerPlugin.Script.Filter.Basic
import SignerPlugin.Script.Filter.Selection
import SignerPlugin.Script.Regular

/-! Editing lines one after the other, as commands with addresses say. -/

namespace SignerPlugin.Script.Filter

/-- Which lines a command is for. -/
inductive Address
  | line (number : Nat)
  | last
  | pattern (regular : Regular)

/-- A part of what is put in the place of a match. -/
inductive Substitute
  | text (c : Char)
  /-- What a group has matched; group 0 is the whole. -/
  | group (number : Nat)

inductive Action
  | replace (regular : Regular) (ignoresCase : Bool) (parts : List Substitute) (all : Bool)
      (first : Nat) (prints : Bool)
  | translate (source target : Letters)
  | print
  | delete
  | quit (silent : Bool) (status : Nat)
  | number
  | next
  | append (text : Letters)
  | insert (text : Letters)
  | change (text : Letters)
  | hold (adds : Bool)
  | recall (adds : Bool)
  | exchange
  | join
  /-- What follows up to the end of the block is passed over unless the address fits. -/
  | opening
  | closing

structure Edit where
  first : Option Address := none
  second : Option Address := none
  negated : Bool := false
  action : Action

namespace Edit

/-- The text up to a sign, which a backslash protects, and what is left behind it. -/
def delimited? (mark : Char) : Letters → Option (Letters × Letters)
  | [] => none
  | '\\' :: c :: rest => do
    let (text, left) ← delimited? mark rest
    return (if c = mark then c :: text else '\\' :: c :: text, left)
  | c :: rest =>
    if c = mark then some ([], rest)
    else do
      let (text, left) ← delimited? mark rest
      return (c :: text, left)

def substitutes : Letters → List Substitute
  | [] => []
  | '&' :: rest => .group 0 :: substitutes rest
  | '\\' :: c :: rest =>
    (if c.isDigit then .group (c.toNat - 48) else .text (if c = 'n' then '\n' else if c =
      't' then '\t' else c)) :: substitutes rest
  | c :: rest => .text c :: substitutes rest

/-- An address, if the text begins with one, and what is left behind it. -/
def address? (extended : Bool) (text : Letters) : Option (Option Address × Letters) :=
  match text with
  | '$' :: rest => some (some .last, rest)
  | '/' :: rest => do
    let (pattern, left) ← delimited? '/' rest
    return (some (.pattern (← Regular.ofLetters? extended pattern)), left)
  | c :: _ =>
    if c.isDigit then
      let digits := text.takeWhile Char.isDigit
      (Letters.number? digits).map fun n => (some (.line n), text.drop digits.length)
    else some (none, text)
  | [] => some (none, [])

/-- The text of a command that takes the rest of its line. -/
def ownText (rest : Letters) : Letters × Letters :=
  let rest := rest.dropWhile isBlank
  let rest := match rest with
    | '\\' :: '\n' :: rest => rest
    | '\\' :: rest => rest
    | rest => rest
  (rest.takeWhile (· ≠ '\n') ++ ['\n'], rest.dropWhile (· ≠ '\n'))

/-- An action, and what is left behind it. -/
def action? (extended : Bool) : Letters → Option (Action × Letters)
  | 's' :: mark :: rest => do
    let (pattern, rest) ← delimited? mark rest
    let (replacement, rest) ← delimited? mark rest
    let flags := rest.takeWhile fun c => c.isDigit || ['g', 'p', 'i', 'I'].contains c
    let digits := flags.filter Char.isDigit
    return (.replace (← Regular.ofLetters? extended pattern)
      (flags.contains 'i' || flags.contains 'I')
      (substitutes replacement) (flags.contains 'g') ((Letters.number? digits).getD 1)
        (flags.contains 'p'), rest.drop flags.length)
  | 'y' :: mark :: rest => do
    let (source, rest) ← delimited? mark rest
    let (target, rest) ← delimited? mark rest
    let source := listed (source.length + 1) (source.filter (· ≠ '-'))
    let target := listed (target.length + 1) (target.filter (· ≠ '-'))
    if source.length = target.length then return (.translate source target, rest) else none
  | 'p' :: rest => some (.print, rest)
  | 'd' :: rest => some (.delete, rest)
  | 'q' :: rest => quitting false rest
  | 'Q' :: rest => quitting true rest
  | '=' :: rest => some (.number, rest)
  | 'n' :: rest => some (.next, rest)
  | 'N' :: rest => some (.join, rest)
  | 'h' :: rest => some (.hold false, rest)
  | 'H' :: rest => some (.hold true, rest)
  | 'g' :: rest => some (.recall false, rest)
  | 'G' :: rest => some (.recall true, rest)
  | 'x' :: rest => some (.exchange, rest)
  | 'a' :: rest => some (.append (ownText rest).1, (ownText rest).2)
  | 'i' :: rest => some (.insert (ownText rest).1, (ownText rest).2)
  | 'c' :: rest => some (.change (ownText rest).1, (ownText rest).2)
  | '{' :: rest => some (.opening, ';' :: rest)
  | '}' :: rest => some (.closing, rest)
  | _ => none
where
  quitting (silent : Bool) (rest : Letters) : Option (Action × Letters) :=
    let rest := rest.dropWhile isBlank
    let digits := rest.takeWhile Char.isDigit
    some (.quit silent ((Letters.number? digits).getD 0), rest.drop digits.length)

/-- The commands that a text writes. The fuel bounds the letters. -/
def read? (extended : Bool) : (fuel : Nat) → Letters → Option (List Edit)
  | 0, _ => none
  | fuel + 1, text => do
    let text := text.dropWhile fun c => isSpace c || c = ';'
    match text with
    | [] => return []
    | '#' :: rest => read? extended fuel (rest.dropWhile (· ≠ '\n'))
    | text =>
      let (first, rest) ← address? extended text
      let (second, rest) ← match rest with
        | ',' :: rest => if first.isSome then address? extended (rest.dropWhile isBlank) else none
        | rest => some (none, rest)
      let rest := rest.dropWhile isBlank
      let (negated, rest) := match rest with
        | '!' :: rest => (true, rest.dropWhile isBlank)
        | rest => (false, rest)
      let (action, rest) ← action? extended rest
      let rest := rest.dropWhile isBlank
      if rest.head?.all fun c => c = ';' || c = '\n' || c = '}' || c = '#' then
        return ⟨first, second, negated, action⟩ :: (← read? extended fuel rest)
      else none

/-- Where editing stands. -/
structure State where
  space : Letters := []
  held : Letters := []
  /-- Lines to come. -/
  ahead : List Letters
  number : Nat := 0
  /-- What has been put out, the last part first. -/
  output : List Letters := []
  /-- What is put out behind the line. -/
  queued : List Letters := []
  /-- The commands whose ranges have begun, with the lines at which they end, if these are known. -/
  begun : List (Nat × Option Nat) := []
  /-- Whether the line is not put out any more. -/
  deleted : Bool := false
  /-- The status to end with, if the end has come. -/
  ended : Option Nat := none

def State.put (state : State) (text : Letters) : State :=
  { state with output := text :: state.output }

def fits (state : State) : Address → Bool
  | .line n => state.number = n
  | .last => state.ahead.isEmpty
  | .pattern regular => (regular.search? false none state.space).isSome

/-- Whether a command, which has an index, is for the line; and the state with what is known
of its range. -/
def isFor (index : Nat) (edit : Edit) (state : State) : Bool × State :=
  let (chosen, state) := match edit.first, edit.second with
    | none, _ => (true, state)
    | some first, none => (fits state first, state)
    | some first, some second =>
      match state.begun.lookup index with
      | some finish =>
        let isOver : Bool := match finish with
          | some n => n ≤ state.number
          | none => fits state second
        let isPast : Bool := match finish with
          | some n => n < state.number
          | none => false
        let begun := if isOver then state.begun.filter (·.1 ≠ index) else state.begun
        (if isPast then fits state first else true, { state with begun })
      | none =>
        if fits state first then
          let finish := match second with
            | .line n => some n
            | _ => none
          let single : Bool := match second with
            | .line n => n ≤ state.number
            | .last => state.ahead.isEmpty
            | .pattern _ => false
          (true, if single then state else { state with begun := (index, finish) :: state.begun })
        else (false, state)
  (chosen != edit.negated, state)

/-- What stands in for a match. -/
def substituted (found : Regular.Match) (parts : List Substitute) : Letters :=
  parts.flatMap fun
    | .text c => [c]
    | .group 0 => found.text
    | .group n => (found.captures.lookup n).getD []

/-- The text with matches replaced, from the one with a number on; and whether there was one.
What is empty does not match directly behind another match. The fuel bounds the matches. -/
def replaced (regular : Regular) (ignoresCase : Bool) (parts : List Substitute) (all : Bool) :
    (fuel : Nat) → (first : Nat) → (behind : Bool) → (before : Option Char) → Letters →
      Letters × Bool
  | 0, _, _, _, text => (text, false)
  | fuel + 1, first, behind, before, text => match regular.search? ignoresCase before text with
    | none => (text, false)
    | some found =>
      let isNothing := found.text.isEmpty
      if isNothing && found.before.isEmpty && behind then
        match text with
        | [] => ([], false)
        | c :: rest =>
          let (rest, more) := replaced regular ignoresCase parts all fuel first false (some c) rest
          (c :: rest, more)
      else
        let here := if first ≤ 1 then substituted found parts else found.text
        if first ≤ 1 && !all then (found.before ++ here ++ found.after, true)
        else
          let passed := if isNothing then found.after.take 1 else []
          let after := found.after.drop passed.length
          let last := ((passed.getLast?).or (found.text.getLast?)).or before
          if isNothing && found.after.isEmpty then (found.before ++ here, first ≤ 1)
          else
            let (rest, more) :=
              replaced regular ignoresCase parts all fuel (first - 1) (!isNothing) last after
            (found.before ++ here ++ passed ++ rest, first ≤ 1 || more)

/-- The commands behind the end of the block that has begun. -/
def skipBlock : (depth : Nat) → List (Edit × Nat) → List (Edit × Nat)
  | _, [] => []
  | depth, (edit, _) :: rest => match edit.action with
    | .opening => skipBlock (depth + 1) rest
    | .closing => if depth = 0 then rest else skipBlock (depth - 1) rest
    | _ => skipBlock depth rest

/-- Puts out the line and what is queued behind it. -/
def finish (quiet : Bool) (ending : Letters) (state : State) : State :=
  let state := if quiet || state.deleted then state else state.put (state.space ++ ending)
  { (state.queued.foldl State.put state) with queued := [] }

/-- Runs commands on a line. The fuel bounds the commands. -/
def runAll (quiet : Bool) : (fuel : Nat) → List (Edit × Nat) → State → State
  | 0, _, state | _, [], state => state
  | fuel + 1, (edit, index) :: rest, state =>
    let (chosen, state) := isFor index edit state
    if !chosen then
      match edit.action with
      | .opening => runAll quiet fuel (skipBlock 0 rest) state
      | _ => runAll quiet fuel rest state
    else match edit.action with
      | .replace regular ignoresCase parts all first prints =>
        let (space, changed) :=
          replaced regular ignoresCase parts all (2 * state.space.length + 2) first false
            none state.space
        let state := { state with space }
        runAll quiet fuel rest (if changed && prints then state.put (space ++ ['\n']) else state)
      | .translate source target =>
        let replacement (c : Char) : Char := ((source.idxOf? c).bind fun i => target[i]?).getD c
        runAll quiet fuel rest { state with space := state.space.map replacement }
      | .print => runAll quiet fuel rest (state.put (state.space ++ ['\n']))
      | .delete => { state with deleted := true }
      | .quit silent status => { state with ended := some status, deleted := silent }
      | .number => runAll quiet fuel rest (state.put (Letters.ofNat state.number ++ ['\n']))
      | .next => match state.ahead with
        | [] => state
        | line :: ahead =>
          let state := finish quiet ['\n'] state
          runAll quiet fuel rest { state with space := line, ahead, number := state.number + 1 }
      | .join => match state.ahead with
        | [] => state
        | line :: ahead =>
          runAll quiet fuel rest
            { state with space := state.space ++ '\n' :: line, ahead, number := state.number + 1 }
      | .append text => runAll quiet fuel rest { state with queued := state.queued ++ [text] }
      | .insert text => runAll quiet fuel rest (state.put text)
      | .change text => { state.put text with deleted := true }
      | .hold adds =>
        runAll quiet fuel rest { state with
          held := if adds then state.held ++ '\n' :: state.space else state.space }
      | .recall adds =>
        runAll quiet fuel rest { state with
          space := if adds then state.space ++ '\n' :: state.held else state.held }
      | .exchange => runAll quiet fuel rest { state with space := state.held, held := state.space }
      | .opening | .closing => runAll quiet fuel rest state

/-- Edits line after line. The fuel bounds the lines. -/
def editAll (quiet : Bool) (edits : List (Edit × Nat)) (ending : Letters) :
    (fuel : Nat) → State → State
  | 0, state => state
  | fuel + 1, state => match state.ahead with
    | [] => state
    | line :: ahead =>
      let state :=
        runAll quiet (edits.length + 1) edits
          { state with space := line, ahead, number := state.number + 1, deleted := false }
      let state := finish quiet (if state.ahead.isEmpty then ending else ['\n']) state
      if state.ended.isSome then state else editAll quiet edits ending fuel state

end Edit

def sed : Filter := fun call =>
  let table : OptionTable :=
    { flags := "nErsuz"
      valued := "e"
      long := [("quiet", 'n'), ("silent", 'n'), ("regexp-extended", 'E'), ("expression", 'e')] }
  let read? : Option (Arguments × List Letters × List Edit) := do
    let arguments ← Arguments.read? table call.arguments
    let (scripts, operands) ← arguments.given? 'e'
    let script := ['\n'].intercalate scripts
    let edits ← Edit.read? (arguments.has 'E' || arguments.has 'r') (script.length + 1) script
    return (arguments, operands, edits)
  match read? with
  | none => refusal
  | some (arguments, operands, edits) =>
    let sources := call.sources operands
    let text : Letters := sources.flatMap fun source => source.2.getD []
    let lines := text.lines
    let ending := if text.getLast? = some '\n' then ['\n'] else []
    let state :=
      Edit.editAll (arguments.has 'n') edits.zipIdx ending (lines.length + 1) { ahead := lines }
    { output := state.output.reverse.flatten
      status := state.ended.getD (if sources.all (·.2.isSome) then 0 else 2)
      drains := drainsFor operands }

end SignerPlugin.Script.Filter
