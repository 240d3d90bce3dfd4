import SignerPlugin.Command
import SignerPlugin.Script.Condition
import SignerPlugin.Script.Filter
import SignerPlugin.Script.Format
import SignerPlugin.Script.Shell

/-! The commands that need no other statements to be run: those on the shell's own state, and
those on files. -/

namespace SignerPlugin.Script

/-- A command, given its arguments. -/
abbrev Builtin := List Letters → Run Unit

namespace Builtin

open Run

/-- Puts out a text; it fails if there is nothing to write to. -/
def say (text : Letters) (status : Nat) : Run Unit := do
  let done ← put 1 text
  finish (if done then status else 1)

/-- Ends a function, a script or the shell with a status, which is that of the last statement
if no other is given. -/
def ending (departure : Departure) : Builtin := fun arguments => do
  let shell ← get
  match arguments with
  | [] => set { shell with departure := some departure }
  | word :: _ => match Letters.number? word with
    | some status => set { shell with status := status % 256, departure := some departure }
    | none => depart 2

/-- Ends loops, or goes on with their next rounds. -/
def looping (departure : Nat → Departure) : Builtin := fun arguments => do
  let shell ← get
  match arguments.head?.map Letters.number? with
  | some none | some (some 0) => depart 2
  | levels =>
    if shell.loops = 0 then finish 0
    else
      let levels := min ((levels.bind id).getD 1) shell.loops
      set { shell with status := 0, departure := some (departure levels) }

def shift : Builtin := fun arguments => do
  let shell ← get
  match arguments.head?.map Letters.number? with
  | some none => depart 2
  | count =>
    let count := (count.bind id).getD 1
    if shell.arguments.length < count then depart 2
    else set { shell with status := 0, arguments := shell.arguments.drop count }

/-- The letters of options that have long names. -/
def longOptions : List (String × Char) :=
  [("errexit", 'e'), ("nounset", 'u'), ("noglob", 'f'), ("xtrace", 'x'), ("verbose", 'v'),
    ("noexec", 'n'), ("allexport", 'a'), ("noclobber", 'C'), ("monitor", 'm'), ("notify", 'b')]

/-- Sets options, and puts what is left in the place of the arguments. -/
def setOptions : Builtin
  | [] => modify fun shell => shell
  | argument :: rest => match argument with
    | ['-', '-'] => modify fun shell => { shell with arguments := rest }
    | ['-'] => modify fun shell => if rest.isEmpty then shell else { shell with arguments := rest }
    | sign :: letters =>
      if sign ≠ '-' && sign ≠ '+' then modify fun shell =>
        { shell with arguments := argument :: rest }
      else
        let change (c : Char) : Run Unit := modify fun shell =>
          let others := shell.options.filter (· ≠ c)
          { shell with options := if sign = '-' then others ++ [c] else others }
        match letters.getLast?, rest with
        | some 'o', name :: rest =>
          match longOptions.lookup (String.ofList name) with
          | some c => do
            letters.dropLast.forM change
            change c
            setOptions rest
          | none => depart 2
        | some 'o', [] => letters.dropLast.forM change
        | _, rest =>
          if letters.all fun c => longOptions.any (·.2 = c) then do
            letters.forM change
            setOptions rest
          else depart 2
    | [] => modify fun shell => { shell with arguments := argument :: rest }

/-- Gives a variable a value, unless it must not change. -/
def assign (name value : Letters) : Run Bool := do
  let shell ← get
  if shell.fixed.contains name then
    depart 2
    return false
  else
    let shell := shell.setVariable name value
    set (if shell.has 'a' then { shell with exported := name :: shell.exported.filter (· ≠
      name) } else shell)
    return true

/-- The name in front of an equals sign, and the value behind it, if there is one. -/
def splitAssignment (word : Letters) : Letters × Option Letters :=
  let name := word.takeWhile (· ≠ '=')
  (name, if name.length < word.length then some (word.drop (name.length + 1)) else none)

/-- Marks variables, which may get values at the same time. -/
def marking (mark : Letters → Shell → Shell) : Builtin := fun arguments => do
  finish 0
  for word in arguments do
    let (name, value) := splitAssignment word
    if isName name then
      match value with
      | some value =>
        if ← assign name value then modify (mark name)
      | none => modify (mark name)
    else if name ≠ ['-', 'p'] then depart 2

/-- Gives variables values until the function ends. -/
def localize : Builtin := fun arguments => do
  let shell ← get
  match shell.locals with
  | [] => depart 2
  | _ =>
    finish 0
    for word in arguments do
      let (name, value) := splitAssignment word
      modify fun shell => match shell.locals with
        | saved :: outer =>
          if saved.any (·.1 = name) then shell
          else { shell with locals := ((name, shell.lookup? name) :: saved) :: outer }
        | [] => shell
      match value with
      | some value => discard (assign name value)
      | none => return

def unset : Builtin := fun arguments => do
  finish 0
  let (functions, names) := match arguments with
    | ['-', 'f'] :: names => (true, names)
    | ['-', 'v'] :: names => (false, names)
    | names => (false, names)
  for name in names do
    if functions then
      modify fun shell => { shell with functions := shell.functions.filter (·.1 ≠ name) }
    else if (← get).fixed.contains name then depart 2
    else modify fun shell => shell.unsetVariable name

/-- A line from the input with what is left of its escapes, the number of letters it takes up,
and whether it has an end. The fuel bounds the letters. -/
def inputLine (raw : Bool) : (fuel : Nat) → Letters → List Glyph × Nat × Bool
  | 0, _ | _, [] => ([], 0, false)
  | _ + 1, '\n' :: _ => ([], 1, true)
  | fuel + 1, '\\' :: c :: rest =>
    if raw then
      let (line, count, ended) := inputLine raw fuel (c :: rest)
      (.result '\\' :: line, count + 1, ended)
    else
      let (line, count, ended) := inputLine raw fuel rest
      (if c = '\n' then line else .letter c true :: line, count + 2, ended)
  | fuel + 1, c :: rest =>
    let (line, count, ended) := inputLine raw fuel rest
    (if c = '\x00' || (c = '\\' && !raw) then line else .result c :: line, count + 1, ended)

/-- Whether a glyph parts fields, and is blank or is not. -/
def isSeparator (separators : Letters) (blank : Bool) : Glyph → Bool
  | .result c => separators.contains c && (isBlank c || c = '\n') == blank
  | _ => false

/-- The values of so many variables in a line: the last one gets all that is left. -/
def distribute (separators : Letters) : (count : Nat) → List Glyph → List Letters
  | 0, _ => []
  | 1, line =>
    let line := line.dropWhile (isSeparator separators true)
    let line := (line.reverse.dropWhile (isSeparator separators true)).reverse
    let head := line.takeWhile fun glyph => !isSeparator separators false glyph
    -- A single separator at the end counts as the end of the last field.
    [Glyph.text (if head.length + 1 = line.length then head else line)]
  | count + 1, line =>
    let line := line.dropWhile (isSeparator separators true)
    let isEnd (glyph : Glyph) : Bool :=
      isSeparator separators true glyph || isSeparator separators false glyph
    let field := line.takeWhile fun glyph => !isEnd glyph
    let rest := (line.drop field.length).dropWhile (isSeparator separators true)
    let rest := match rest with
      | glyph :: more => if isSeparator separators false glyph then more else rest
      | [] => []
    Glyph.text field :: distribute separators count rest

/-- Reads a line into variables. -/
def read : Builtin := fun arguments => do
  match Arguments.read? { flags := "r", valued := "p" } arguments with
  | none => finish 2
  | some options =>
    if options.operands.isEmpty then finish 2
    else
      let input ← peek 0
      let (line, count, ended) := inputLine (options.has 'r') (input.length + 1) input
      consume 0 count
      let values := distribute (← get).separators options.operands.length line
      let mut fine := true
      for (name, value) in options.operands.zip values do
        if isName name then fine := (← assign name value) && fine
        else fine := false
      if !(← get).isDone then finish (if !fine then 2 else if ended then 0 else 1)

/-- Goes to another directory, or back to the one before. -/
def changeDirectory : Builtin := fun arguments => do
  let shell ← get
  let here : Path := ⟨"/", shell.files.workingDir⟩
  let operands :=
    arguments.filter fun word => word ≠ ['-', 'P'] && word ≠ ['-', 'L'] && word ≠ ['-', '-']
  let target := match operands.head? with
    | some ['-'] => (shell.lookup? "OLDPWD".toList).getD []
    | some name => name
    | none => (shell.lookup? "HOME".toList).getD []
  match shell.files.place target.toPath, target.isEmpty with
  | .ok (.directory location), false =>
    let there : Path := ⟨"/", location⟩
    let moved := { shell with status := 0, files := { shell.files with workingDir := location } }
    set ((moved.setVariable "OLDPWD".toList (Letters.ofText here.toText)).setVariable "PWD".toList
      (Letters.ofText there.toText))
    if operands.head? = some ['-'] then say (Letters.ofText there.toText ++ ['\n']) 0
  | _, _ => finish (if target.isEmpty && operands.isEmpty then 0 else 2)

def showDirectory : Builtin := fun _ => do
  let path : Path := ⟨"/", (← get).files.workingDir⟩
  say (Letters.ofText path.toText ++ ['\n']) 0

/-- Signals that do nothing unless they are caught. -/
def harmless : List Nat := [0, 17, 18, 23, 28]

/-- The number of a signal that is named by its number, or without the letters that all names
begin with. -/
def signal? (word : Letters) : Option Nat :=
  let name := "SIG" ++ String.ofList (word.map Char.toUpper)
  (Letters.number? word).or
    ((SignerPlugin.Command.signals.find? fun entry => entry.2 = name).map (·.1))

/-- Sends the shell a signal. -/
def receive (number : Nat) : Run Unit := do
  let shell ← get
  match shell.traps.lookup number with
  | some action =>
    if number = 9 || number =
      19 then set { shell with status := 0, killed := some ⟨shell.process, number⟩ }
    else if action.isEmpty then finish 0
    else set { shell with status := 0, pending := shell.pending ++ [number] }
  | none =>
    if harmless.contains number then finish 0
      else set { shell with status := 0, killed := some ⟨shell.process, number⟩ }

def kill : Builtin := fun arguments => do
  let (chosen, targets) := match arguments with
    | ['-', 's'] :: name :: targets => (signal? name, targets)
    | ['-', '-'] :: targets => (some 15, targets)
    | ('-' :: name) :: targets => (signal? name, targets)
    | targets => (some 15, targets)
  match chosen with
  | none => finish 2
  | some number =>
    if targets.isEmpty || number > 64 then finish 2
    else
      let shell ← get
      let within (target : Nat) : Bool := Shell.processNumber ≤ target && target ≤ shell.process
      match targets.mapM fun target => (Letters.number? target).filter within with
      | none => finish 1
      | some targets =>
        if targets.all (· = shell.process) then receive number
        else if harmless.contains number then finish 0
        else set { shell with status := 0, killed := some ⟨targets.foldl min shell.process,
          number⟩ }

/-- A number of seconds, or of longer units that are named behind it, in microseconds. -/
def duration? (word : Letters) : Option Nat :=
  let whole := word.takeWhile Char.isDigit
  let rest := word.drop whole.length
  let (fraction, unit) := match rest with
    | '.' :: rest => (rest.takeWhile Char.isDigit, rest.dropWhile Char.isDigit)
    | rest => ([], rest)
  let digits := whole ++ (fraction ++ List.replicate 6 '0').take 6
  let factor? : Option Nat := match unit with
    | [] | ['s'] => some 1
    | ['m'] => some 60
    | ['h'] => some 3600
    | ['d'] => some 86400
    | _ => none
  if word = "infinity".toList then some 1000000000000000
  else if whole.isEmpty && fraction.isEmpty then none
  else do return (← Letters.number? digits) * (← factor?)

def sleep : Builtin := fun arguments => do
  match arguments.mapM duration? with
  | some (first :: rest) =>
    finish 0
    modify fun shell => shell.pass (rest.foldl (· + ·) first)
  | _ => finish 1

/-- Waits until all is done that goes on in the background. -/
def wait : Builtin := fun _ => do
  finish 0
  modify fun shell => shell.pass (shell.background - shell.lasted)

/-- Says what is to be done on signals. -/
def trap : Builtin := fun arguments => do
  let number? (word : Letters) : Option Nat :=
    if word = "EXIT".toList then some 0 else (signal? word).filter (· ≤ 64)
  let change (action : Option Letters) (words : List Letters) : Run Unit := do
    match words.mapM number? with
    | none => finish 1
    | some numbers =>
      modify fun shell =>
        let others := shell.traps.filter fun entry => !numbers.contains entry.1
        { shell with
          status := 0
          traps := match action with
            | some action => others ++ numbers.map fun number => (number, action)
            | none => others }
  match arguments.filter (· ≠ ['-', '-']) with
  | [] => finish 0
  | ['-'] :: words => change none words
  | action :: words =>
    if (Letters.number? action).isSome || words.isEmpty then change none (action :: words)
    else change (some action) words

/-- Whether a condition holds. -/
def test (arguments : List Letters) : Run Unit := do
  let shell ← get
  let words := if shell.extended then arguments.map fun word =>
    if word = ['=', '='] then ['='] else word
    else arguments
  match Condition.holds shell.files words with
  | .ok holds => finish (if holds then 0 else 1)
  | .error _ => finish 2

/-- Whether the condition between brackets holds. -/
def bracket : Builtin := fun arguments =>
  if arguments.getLast? = some [']'] then test arguments.dropLast else finish 2

def printf : Builtin := fun arguments =>
  match arguments with
  | ['-', '-'] :: pattern :: rest | pattern :: rest =>
    if pattern.head? = some '-' && pattern.length > 1 && arguments.head? ≠
      some ['-', '-'] then finish 2
    else
      let (text, status) := format pattern rest
      say text status
  | [] => finish 2

/-- The commands of the shell itself. Those of the first list end the shell when they go
wrong, and what is assigned for them stays. -/
def special : List (String × Builtin) :=
  [(":", fun _ => finish 0), ("break", looping .broken), ("continue", looping .continued),
    ("exit", ending .exit), ("return", ending .leave), ("shift", shift), ("unset", unset),
    ("trap", trap),
    ("times", fun _ => say "0m0.000000s 0m0.000000s\n0m0.000000s 0m0.000000s\n".toList 0),
    ("set", fun arguments => do
      finish 0
      setOptions arguments),
    ("export", marking fun name shell =>
      { shell with exported := name :: shell.exported.filter (· ≠ name) }),
    ("readonly", marking fun name shell => { shell with fixed := name :: shell.fixed })]

def regular : List (String × Builtin) :=
  [("[", bracket), ("cd", changeDirectory), ("chdir", changeDirectory),
    ("echo", fun words => do
      say (if (← get).extended then plainEcho words else echo words) 0),
        ("false", fun _ => finish 1), ("kill", kill),
    ("local", localize), ("printf", printf), ("pwd", showDirectory), ("read", read), ("test", test),
    ("true", fun _ => finish 0),
      ("umask", fun words => if words.isEmpty then say "0022\n".toList 0 else finish 0),
      ("ulimit", fun _ => finish 0),
    ("hash", fun _ => finish 0), ("jobs", fun _ => finish 0), ("wait", wait)]

end Builtin
end SignerPlugin.Script
