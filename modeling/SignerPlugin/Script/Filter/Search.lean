import SignerPlugin.Script.Filter.Basic
import SignerPlugin.Script.Regular

/-! Searching lines for what a pattern describes. -/

namespace SignerPlugin.Script.Filter

/-- The expression for a text as it stands. -/
def verbatim (text : Letters) : Regular :=
  text.foldl (fun regular c => .both regular (Regular.letter c)) .nothing

/-- The expression that any of several patterns describe, if all can be read. -/
def patternOf? (arguments : Arguments) (patterns : List Letters) : Option Regular := do
  let each ← patterns.mapM fun text =>
    if arguments.has 'F' then some (verbatim text) else Regular.ofLetters? (arguments.has 'E') text
  let narrowed := each.map fun regular =>
    if arguments.has 'x' then Regular.both .start (.both regular .finish)
    else if arguments.has 'w' then .both (.edge true false) (.both regular (.edge false true))
    else regular
  match narrowed with
  | [] => none
  | first :: rest => return rest.foldl .either first

/-- The parts of a line that match and are not empty. The fuel bounds them. -/
def parts (regular : Regular) (ignoresCase : Bool) : (fuel : Nat) → (before : Option Char) →
    Letters → List Letters
  | 0, _, _ => []
  | fuel + 1, before, text => match regular.search? ignoresCase before text with
    | none => []
    | some found =>
      if found.text.isEmpty then match found.after with
        | [] => []
        | c :: rest => parts regular ignoresCase fuel (some c) rest
      else found.text :: parts regular ignoresCase fuel found.text.getLast? found.after

/-- What a search puts out for a source, and whether a line was found. -/
def searched (arguments : Arguments) (regular : Regular) (label : Letters) (text : Letters) :
    Letters × Bool :=
  let ignoresCase := arguments.has 'i' || arguments.has 'y'
  let lines := text.lines.zipIdx 1
  let found := lines.filter fun (line, _) =>
    (regular.search? ignoresCase none line).isSome != arguments.has 'v'
  let found := match (arguments.value? 'm').bind Letters.number? with
    | some most => found.take most
    | none => found
  let mark (number : Nat) : Letters :=
    let name := if label.isEmpty then [] else label ++ [':']
    if arguments.has 'n' then name ++ Letters.ofNat number ++ [':'] else name
  let output :=
    if arguments.has 'q' then []
    else if arguments.has 'c' then
      (if label.isEmpty then [] else label ++ [':']) ++ Letters.ofNat found.length ++ ['\n']
    else if arguments.has 'o' then
      if arguments.has 'v' then []
      else found.flatMap fun (line, number) =>
        (parts regular ignoresCase (line.length + 1) none line).flatMap fun part =>
          mark number ++ part ++ ['\n']
    else found.flatMap fun (line, number) => mark number ++ line ++ ['\n']
  (output, !found.isEmpty)

/-- The status tells whether a line was found, or something went wrong. -/
def grep : Filter := fun call =>
  let table : OptionTable :=
    { flags := "EFGivcnoqslLhHxway"
      valued := "em"
      long := [("quiet", 'q'), ("silent", 'q'), ("ignore-case", 'i'), ("invert-match", 'v'),
        ("count", 'c'),
        ("only-matching", 'o'), ("fixed-strings", 'F'), ("extended-regexp", 'E'),
        ("line-number", 'n'), ("no-messages", 's'), ("max-count", 'm'), ("word-regexp", 'w'),
        ("line-regexp", 'x'), ("files-with-matches", 'l'), ("regexp", 'e'), ("text", 'a')] }
  let read? : Option (Arguments × List Letters × Regular) := do
    let arguments ← Arguments.read? table call.arguments
    let (patterns, operands) ← arguments.given? 'e'
    let regular ← patternOf? arguments (patterns.flatMap (·.splitOn '\n'))
    return (arguments, operands, regular)
  match read? with
  | none => { status := 2 }
  | some (arguments, operands, regular) =>
    let sources := call.sources operands
    let labelled := (operands.length > 1 || arguments.has 'H') && !arguments.has 'h'
    let results := sources.filterMap fun (name, content) => content.map fun text =>
      let name := if isInput name then "(standard input)".toList else name
      (name, searched arguments regular (if labelled then name else []) text)
    let isFound := results.any (·.2.2)
    let output :=
      if arguments.has 'l' then Letters.ofLines ((results.filter (·.2.2)).map (·.1))
      else if arguments.has 'L' then Letters.ofLines ((results.filter (!·.2.2)).map (·.1))
      else results.flatMap (·.2.1)
    let isMissing := sources.any (·.2.isNone)
    { output
      status := if isMissing && !(arguments.has 'q' && isFound) then 2 else if isFound then 0 else 1
      drains := drainsFor operands }

end SignerPlugin.Script.Filter
