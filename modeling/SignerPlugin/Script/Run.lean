import SignerPlugin.Script.Reader
import SignerPlugin.Script.Sum
import SignerPlugin.Script.Utility

/-! Running statements. Fuel bounds the depth of statements within statements, and another
number the rounds of a loop: a run that comes to a bound counts as one that does not end. -/

namespace SignerPlugin.Script

namespace Run

/-- The most rounds of a loop. -/
def maxRounds : Nat := 100000

/-- The run does not end by itself. -/
def stall : Run Unit :=
  modify fun shell =>
    { shell with
      killed := some ⟨Shell.processNumber, 9⟩
      lasted := max shell.lasted (shell.limit.getD 1000000000000000) }

/-- The names of programs that run scripts. -/
def shells : List String := ["sh", "dash", "bash"]

/-- The directories that programs stand in. -/
def programDirectories : List String := ["/bin/", "/usr/bin/"]

/-- The name of the program that a path leads to. -/
def programName? (path : Letters) : Option String :=
  let text := path.toText
  if !text.contains '/' then some text
  else programDirectories.findSome? fun directory =>
    let name := String.ofList (text.toList.drop directory.length)
    if directory.toList.isPrefixOf text.toList && !name.contains '/' then some name else none

/-- The programs that run other ones. -/
def runners : List String := ["env", "nice", "nohup", "timeout", "xargs"]

def isProgram (name : String) : Bool :=
  shells.contains name || runners.contains name || (Utility.ofName? name).isSome

/-- The commands of the shell that run statements. -/
def drivers : List String := [".", "source", "command", "eval", "exec", "type"]

/-- What a name means to a shell. -/
inductive Meaning
  | reserved
  /-- A command of the shell, or a function. -/
  | own
  | program (path : Letters)
  | nothing

/-- The commands of the shell that end it when they go wrong. -/
def isSpecial (name : String) : Bool :=
  (Builtin.special.lookup name).isSome || ["eval", ".", "exec"].contains name

def meaningOf (shell : Shell) (name : Letters) : Meaning :=
  let text := String.ofList name
  if reserved.contains text then .reserved
  else if (drivers.contains text && (text ≠ "source" || shell.extended)) || isSpecial text ||
    (Builtin.regular.lookup text).isSome ||
    (shell.functions.lookup name).isSome then .own
  else match (programName? name).filter isProgram with
    | some program => .program (if name.contains '/' then name else ("/usr/bin/" ++ program).toList)
    | none => match name.contains '/', shell.files.place name.toPath with
      | true, .ok (.file _ _ mode) => if mode % 2 = 1 then .program name else .nothing
      | _, _ => .nothing

/-- Of what kind a command of the shell is. -/
def ownKind (shell : Shell) (name : Letters) : Letters :=
  if isSpecial (String.ofList name) then "special shell builtin".toList
  else if (shell.functions.lookup name).isSome then "shell function".toList
  else "shell builtin".toList

/-- How much of a file counts when it names the program that runs it. -/
def headSize : Nat := 256

/-- The words on the first line that names the program for a script: its path, and an argument. -/
def interpreterOf (content : Letters) : Option (List Letters) :=
  match content.take headSize with
  | '#' :: '!' :: rest =>
    let line := (rest.takeWhile fun c => c ≠ '\n' && c ≠ '\x00').dropWhile isBlank
    let path := line.takeWhile fun c => !isBlank c
    let argument := (line.drop path.length).dropWhile isBlank
    let argument := (argument.reverse.dropWhile isBlank).reverse
    if path.length = line.length && rest.length + 2 = headSize && !rest.contains '\n' then some []
    else some (if path.isEmpty then [] else if argument.isEmpty then [path] else [path, argument])
  | _ => none

/-- The options in front of a command, and the command. -/
def xargsWords : List Letters → List Letters × List Letters
  | ['-', c] :: value :: rest =>
    if ['n', 'I', 'd', 'L'].contains c then
      let (options, words) := xargsWords rest
      (['-', c] :: value :: options, words)
    else
      let (options, words) := xargsWords (value :: rest)
      (['-', c] :: options, words)
  | word :: rest =>
    if word.head? = some '-' then
      let (options, words) := xargsWords rest
      (word :: options, words)
    else ([], word :: rest)
  | [] => ([], [])

/-- The variables that every shell has of its own. -/
def ownVariables : List (Letters × Letters) :=
  [("IFS".toList, [' ', '\t', '\n']), ("OPTIND".toList, ['1']), ("PS1".toList, "# ".toList),
    ("PS2".toList, "> ".toList), ("PS4".toList, "+ ".toList), ("PPID".toList, ['1'])]

/-- What a loop does after a round: whether it goes on. -/
def endRound : Run Bool := do
  let shell ← get
  match shell.departure with
  | none => return shell.killed.isNone
  | some (.continued (levels + 2)) =>
    set { shell with departure := some (.continued (levels + 1)) }
    return false
  | some (.continued _) =>
    set { shell with departure := none }
    return true
  | some (.broken (levels + 2)) =>
    set { shell with departure := some (.broken (levels + 1)) }
    return false
  | some (.broken _) =>
    set { shell with departure := none }
    return false
  | some _ => return false

/-- Runs the rounds of a loop. -/
def inLoop (action : Run Unit) : Run Unit := do
  modify fun shell => { shell with loops := shell.loops + 1 }
  action
  modify fun shell => { shell with loops := shell.loops - 1 }

/-- Leaves the shell if a statement has failed and that is not looked at. -/
def checkExit (guarded : Bool) : Run Unit := do
  let shell ← get
  if shell.status ≠ 0 && shell.has 'e' && !guarded && !shell.isDone then depart shell.status

/-- The glyphs of a parameter's value. -/
def valueGlyphs (shell : Shell) (name : Letters) (quoted : Bool) : List Glyph :=
  let all := [Glyph.edge].intercalate (shell.arguments.map (Glyph.ofValue quoted))
  if name = ['@'] || (name = ['*'] && !quoted) then all
  else Glyph.ofValue quoted ((shell.parameter? name).getD [])

/-- Gives variables their former values back. -/
def restoreVariables (saved : List (Letters × Option Letters × Bool)) : Run Unit :=
  saved.forM fun (name, value, isExported) => modify fun shell =>
    let shell := match value with
      | some value => shell.setVariable name value
      | none => shell.unsetVariable name
    let others := shell.exported.filter (· ≠ name)
    { shell with exported := if isExported then name :: others else others }

mutual

/-- The glyphs of a word. -/
def expand : (fuel : Nat) → Word → Run (List Glyph)
  | 0, _ => do
    stall
    return []
  | _, [] => return []
  | fuel + 1, piece :: rest => do
    let first ← expandPiece fuel piece
    if (← get).isDone then return first
    return first ++ (← expand fuel rest)

def expandPiece : (fuel : Nat) → Piece → Run (List Glyph)
  | 0, _ => do
    stall
    return []
  | fuel + 1, piece => do
    match piece with
    | .text letters quoted =>
      return if quoted then Glyph.ofValue true letters else letters.map (.letter · false)
    | .output body quoted =>
      let status := (← get).status
      let text ← capturing (process fuel (execute fuel false body))
      modify fun shell => { shell with status, substituted := some shell.status }
      return Glyph.ofValue quoted (Letters.chomp (text.filter (· ≠ '\x00')))
    | .sum expression quoted =>
      let text := Glyph.text (← expand fuel expression)
      let shell ← get
      let look (name : Letters) : Letters := (shell.lookup? name).getD []
      match (Sum.ofLetters? text).bind fun sum => (sum.eval look).run [] with
      | some (value, changes) =>
        for (name, value) in changes.reverse do
          discard (Builtin.assign name (Letters.ofInt value))
        return Glyph.ofValue quoted (Letters.ofInt value)
      | none =>
        depart 2
        return []
    | .parameter name use word quoted =>
      let shell ← get
      let value := shell.parameter? name
      let isMissing (orEmpty : Bool) : Bool := value.isNone || (orEmpty && value = some [])
      let isAll := name = ['@'] || name = ['*']
      let substitute : Run (List Glyph) := do
        let glyphs ← expand fuel word
        return if quoted then if glyphs.isEmpty then [.presence] else glyphs else glyphs.map
          Glyph.loosen
      let demanded : Run Bool := do
        if value.isNone && shell.has 'u' && !isAll then
          depart 2
          return false
        else return true
      match use with
      | .value => return if ← demanded then valueGlyphs shell name quoted else []
      | .length =>
        return if ← demanded then Glyph.ofValue quoted
          (Letters.ofNat (value.getD []).length) else []
      | .fallback orEmpty =>
        if isMissing orEmpty then substitute else return valueGlyphs shell name quoted
      | .assign orEmpty =>
        if isMissing orEmpty then
          if isName name then
            let text := Glyph.text (← expand fuel word)
            discard (Builtin.assign name text)
            return Glyph.ofValue quoted text
          else
            depart 2
            return []
        else return valueGlyphs shell name quoted
      | .demand orEmpty =>
        if isMissing orEmpty then
          depart 2
          return []
        else return valueGlyphs shell name quoted
      | .replace orEmpty =>
        if isMissing orEmpty then return if quoted then [.presence] else [] else substitute
      | .cut atEnd longest =>
        if !(← demanded) then return []
        else
          let marks := Glyph.marks (← expand fuel word)
          let pattern := Pattern.ofMarks (marks.length + 1) marks
          let text := value.getD []
          return Glyph.ofValue quoted
            (if atEnd then pattern.cutEnd longest text else pattern.cutStart longest text)
      | .invalid =>
        depart 2
        return []

/-- The text of a word that does not fall into fields. -/
def textOf : (fuel : Nat) → Word → Run Letters
  | 0, _ => do
    stall
    return []
  | fuel + 1, word => return Glyph.text (← expand fuel word)

/-- The fields that words fall into. -/
def fieldsOf : (fuel : Nat) → List Word → Run (List Letters)
  | 0, _ => do
    stall
    return []
  | fuel + 1, words => do
    let mut fields := []
    for word in words do
      if !(← get).isDone then
        let glyphs ← expand fuel word
        let shell ← get
        let found := Glyph.fields shell.separators glyphs
        fields := fields ++ (if shell.has 'f' then found.map fun field => [field.map (·.letter)]
          else found.map (glob shell.files)).flatten
    return fields

/-- Redirects channels, until one cannot be. -/
def redirect : (fuel : Nat) → List Redirect → Run Bool
  | 0, _ => do
    stall
    return false
  | _, [] => return true
  | fuel + 1, next :: rest => do
    let done ← match next with
      | .document channel number =>
        let word := ((← get).documents.lookup number).getD []
        let text ← textOf fuel word
        connect channel (← addStream (.source text))
        pure true
      | .file channel .duplicate target =>
        let text ← textOf fuel target
        if text = ['-'] then
          modify fun shell => { shell with channels := shell.channels.filter (·.1 ≠ channel) }
          pure true
        else
          let channels := (← get).channels
          match (Letters.number? text).bind fun n => channels.lookup n with
          | some number =>
            connect channel number
            pure true
          | none => pure false
      | .file channel opening target =>
        let name ← textOf fuel target
        if (← get).isDone then pure false
        else match ← openFile opening name with
          | some number =>
            connect channel number
            pure true
          | none => pure false
    if done && !(← get).isDone then redirect fuel rest else return false

/-- Assigns variables one after the other. -/
def assignAll : (fuel : Nat) → List (Letters × Word) → Run Unit
  | 0, _ => stall
  | _, [] => return
  | fuel + 1, (name, word) :: rest => do
    let value ← textOf fuel word
    if !(← get).isDone then
      if ← Builtin.assign name value then assignAll fuel rest

/-- Runs a step that is a process of its own to its end, where what the script has laid down
for that is done. -/
def process : (fuel : Nat) → Run Unit → Run Unit
  | 0, _ => stall
  | fuel + 1, action => do
    action
    let shell ← get
    match shell.traps.lookup 0 with
    | some text =>
      if shell.killed.isNone then
        set { shell with traps := shell.traps.filter (·.1 ≠ 0), departure := none }
        runText fuel false text
        if (← get).departure ≠ some .exit then finish shell.status
    | none => return

/-- Runs the lines of a text. -/
def runText : (fuel : Nat) → (guarded : Bool) → Letters → Run Unit
  | 0, _, _ => stall
  | fuel + 1, guarded, text => do
    let shell ← get
    let program := Program.ofLetters text shell.nextDocument
    set { shell with
      documents := shell.documents ++ program.documents
      nextDocument := shell.nextDocument + program.documents.length }
    for line in program.lines do
      if !(← get).isDone then execute fuel guarded line
    if program.broken && !(← get).isDone then depart 2

/-- Does what is laid down for the signals that have come. -/
def answerSignals : (fuel : Nat) → Run Unit
  | 0 => stall
  | fuel + 1 => do
    let shell ← get
    match shell.pending with
    | [] => return
    | number :: rest =>
      set { shell with pending := rest }
      runText fuel true ((shell.traps.lookup number).getD [])
      if !(← get).isDone then
        finish shell.status
        answerSignals fuel

/-- Runs a program in a process of its own, or in the place of the shell. -/
def runProgram : (fuel : Nat) → (replaces : Bool) → (name : Letters) →
    (arguments : List Letters) → Run Unit
  | 0, _, _, _ => stall
  | fuel + 1, replaces, name, arguments => do
    let own (action : Run Unit) : Run Unit := if replaces then apart action else inProcess action
    match (programName? name).filter isProgram with
    | some program =>
      if shells.contains program then own (runShell fuel (program = "bash") name [] arguments)
      else if runners.contains program then own (runRunner fuel program arguments)
      else match Utility.ofName? program with
        | some utility => apart (utility arguments)
        | none => finish 127
    | none =>
      if !name.contains '/' then finish 127
      else match (← get).files.place name.toPath with
        | .ok (.file _ content mode) =>
          if mode % 2 = 0 then finish 126
          else match interpreterOf (Letters.ofBytes content) with
            | some (interpreter :: options) =>
              runProgram fuel replaces interpreter (options ++ name :: arguments)
            | some [] | none => own (runShell fuel false name [] (name :: arguments))
        | .ok (.directory _) => finish 126
        | _ => finish 127

/-- Runs a script as a process of its own, given the options and arguments of a shell. -/
def runShell : (fuel : Nat) → (extended : Bool) → (name : Letters) → (options : List Char) →
    (arguments : List Letters) → Run Unit
  | 0, _, _, _, _ => stall
  | fuel + 1, extended, name, options, arguments => do
    let begin (name : Letters) (arguments : List Letters) (text : Letters) : Run Unit := do
      modify fun shell =>
        { shell with
          name, arguments, extended
          options := options.filter fun c => c ≠ 'c' && c ≠ 's'
          bindings := (Utility.environment shell).reverse ++ ownVariables
          functions := [], traps := [], locals := [], loops := 0, fixed := [] }
      process fuel (runText fuel false text)
    match arguments with
    | ['-', '-'] :: rest => runShell fuel extended name options rest
    | ('-' :: letter :: letters) :: rest =>
      if (letter :: letters).all fun c => c = 'c' || c = 's' || Builtin.longOptions.any
        (·.2 = c) then
        runShell fuel extended name (options ++ letter :: letters) rest
      else finish 2
    | operands =>
      if options.contains 'c' then
        match operands with
        | [] => finish 2
        | [text] => begin name [] text
        | text :: name :: rest => begin name rest text
      else match operands with
        | [] => begin name [] (← takeInput)
        | file :: rest =>
          if options.contains 's' then begin name operands (← takeInput)
          else
            match (← get).files.place file.toPath with
            | .ok (.file _ content _) => begin file rest (Letters.ofBytes content)
            | _ => finish 2

/-- Runs a program that runs another one. -/
def runRunner : (fuel : Nat) → (program : String) → (arguments : List Letters) → Run Unit
  | 0, _, _ => stall
  | fuel + 1, program, arguments => do
    match program, arguments with
    | "env", [] => Utility.printenv []
    | "env", ['-', 'i'] :: rest | "env", ['-'] :: rest =>
      modify fun shell => { shell with exported := [] }
      runRunner fuel program rest
    | "env", ['-', 'u'] :: name :: rest =>
      modify fun shell => shell.unsetVariable name
      runRunner fuel program rest
    | "env", ['-', 'S'] :: line :: rest | "env", ('-' :: 'S' :: line) :: rest =>
      runRunner fuel program ((line.splitOnP isBlank).filter (!·.isEmpty) ++ rest)
    | "env", word :: rest =>
      match Builtin.splitAssignment word with
      | (name, some value) =>
        modify fun shell =>
          { shell.setVariable name value with exported := name :: shell.exported.filter (· ≠ name) }
        runRunner fuel program rest
      | (_, none) => runProgram fuel true word rest
    | "timeout", duration :: name :: rest =>
      match Builtin.duration? duration with
      | none => finish 125
      | some duration =>
        let shell ← get
        let own := shell.lasted + duration
        let isShorter := shell.limit.all (own < ·)
        modify fun shell => { shell with limit := if isShorter then some own else shell.limit }
        runProgram fuel false name rest
        modify fun after =>
          if isShorter && after.killed.any (·.signal = 9) && own ≤ after.lasted then
            { after with killed := none, lasted := own, limit := shell.limit, status := 124 }
          else { after with limit := shell.limit }
    | "xargs", words =>
      let input ← takeInput
      let operands := (input.splitOnP isSpace).filter (!·.isEmpty)
      let (options, words) := xargsWords words
      match Arguments.read? { flags := "rt0", valued := "nIdL" } options with
      | none => finish 1
      | some options =>
        let words := if words.isEmpty then ["echo".toList] else words
        let size := ((options.value? 'n').bind Letters.number?).getD (operands.length + 1)
        let commands : List (List Letters) := match options.value? 'I' with
          | some signs => input.lines.map fun line => words.map fun word =>
            Utility.filled signs (line.dropWhile isBlank) (word.length + 1) word
          | none =>
            if operands.isEmpty then if options.has 'r' then [] else [words]
            else (Filter.grouped size (operands.length + 1) operands).map (words ++ ·)
        finish 0
        for command in commands do
          let before := (← get).status
          match command with
          | name :: arguments =>
            if !(← get).isDone then
              runProgram fuel false name arguments
              modify fun shell =>
                { shell with
                  status := if shell.status = 0 then before
                    else if shell.status < 126 then 123 else shell.status }
          | [] => return
    | "nice", ['-', 'n'] :: _ :: name :: rest => runProgram fuel true name rest
    | _, name :: rest => runProgram fuel true name rest
    | _, [] => finish 125

/-- Runs a command, given its fields. -/
def runCommand : (fuel : Nat) → (guarded : Bool) → (name : Letters) →
    (arguments : List Letters) → Run Unit
  | 0, _, _, _ => stall
  | fuel + 1, guarded, name, arguments => do
    let shell ← get
    let text := String.ofList name
    match text, arguments with
    | "eval", words => 
      finish 0
      runText fuel guarded ([' '].intercalate words)
    | ".", [] => depart 2
    | "source", file :: _ =>
      if shell.extended then runCommand fuel guarded ['.'] [file] else finish 127
    | ".", file :: _ =>
      match shell.files.place file.toPath with
      | .ok (.file _ content _) =>
        finish 0
        runText fuel guarded (Letters.ofBytes content)
        modify fun shell =>
          { shell with
            departure := if shell.departure = some .leave then none else shell.departure }
      | _ => depart 2
    | "exec", [] => finish 0
    | "exec", name :: rest =>
      runProgram fuel true name rest
      modify fun shell => { shell with departure := some .exit, traps := [] }
    | "command", ['-', 'v'] :: word :: _ =>
      match meaningOf shell word with
      | .own | .reserved => Builtin.say (word ++ ['\n']) 0
      | .program path => Builtin.say (path ++ ['\n']) 0
      | .nothing => finish 127
    | "command", ['-', 'V'] :: words | "type", words =>
      finish 0
      for word in words do
        let put (text : Letters) : Run Unit := do discard (Run.put 1 (word ++ text ++ ['\n']))
        match meaningOf shell word with
        | .own => put (" is a ".toList ++ ownKind shell word)
        | .reserved => put " is a shell keyword".toList
        | .program path => put (" is ".toList ++ path)
        | .nothing =>
          put ": not found".toList
          finish 127
    | "command", name :: rest =>
      let text := String.ofList name
      if drivers.contains text then runCommand fuel guarded name rest
      else match (Builtin.special.lookup text).or (Builtin.regular.lookup text) with
        | some builtin => builtin rest
        | none => runProgram fuel false name rest
    | "command", [] => finish 0
    | _, _ => match Builtin.special.lookup text with
      | some builtin => builtin arguments
      | none => match shell.functions.lookup name with
        | some body =>
          set { shell with arguments, loops := 0, locals := [] :: shell.locals, status := 0 }
          execute fuel guarded body
          let saved := ((← get).locals.head?).getD []
          modify fun after =>
            saved.foldl
              (fun after (name, value) => match value with
                | some value => after.setVariable name value
                | none => { after with bindings := after.bindings.filter (·.1 ≠ name) })
              { after with
                arguments := shell.arguments
                loops := shell.loops
                locals := shell.locals
                departure := if after.departure = some .leave then none else after.departure }
        | none => match Builtin.regular.lookup text with
          | some builtin => builtin arguments
          | none => runProgram fuel false name arguments

/-- Runs a simple statement. -/
def runSimple : (fuel : Nat) → (guarded : Bool) → List (Letters × Word) → List Word →
    List Redirect → Run Unit
  | 0, _, _, _, _ => stall
  | fuel + 1, guarded, assignments, words, redirects => do
    modify fun shell => { shell with substituted := none }
    let fields ← fieldsOf fuel words
    if (← get).isDone then return
    match fields with
    | [] =>
      restoring do
        if ← redirect fuel redirects then
          assignAll fuel assignments
          let shell ← get
          if !shell.isDone then finish (shell.substituted.getD 0)
        else if !(← get).isDone then finish 2
    | name :: arguments =>
      let text := String.ofList name
      let isSpecial := isSpecial text
      let channels := (← get).channels
      if ← redirect fuel redirects then
        let shell ← get
        let saved :=
          assignments.map fun (name, _) => (name, shell.lookup? name, shell.exported.contains name)
        assignAll fuel assignments
        if !(← get).isDone then
          if !isSpecial then
            modify fun shell => { shell with
              exported := (assignments.map (·.1)).filter (!shell.exported.contains ·) ++
                shell.exported }
          runCommand fuel guarded name arguments
          if !isSpecial then restoreVariables saved
      else if !(← get).isDone then
        if isSpecial then depart 2 else finish 2
      if !(text = "exec" && arguments.isEmpty) then
        modify fun shell => { shell with channels }

/-- Runs a statement; `guarded` tells that a failure will be looked at. -/
def execute : (fuel : Nat) → (guarded : Bool) → Statement → Run Unit
  | 0, _, _ => stall
  | fuel + 1, guarded, statement => do
    match statement with
    | .simple assignments words redirects =>
      runSimple fuel guarded assignments words redirects
      answerSignals fuel
      checkExit guarded
    | .sequence body =>
      for statement in body do
        if !(← get).isDone then execute fuel guarded statement
    | .pipeline stages =>
      let start := (← get).lasted
      let mut source := (← get).channels.lookup 0
      let mut finished := start
      for (stage, n) in stages.zipIdx 1 do
        if !(← get).isDone then
          modify fun shell => { shell with lasted := start }
          let sink ← addStream (.sink [])
          apart do
            match source with
            | some number => connect 0 number
            | none => return
            if n < stages.length then connect 1 sink
            process fuel (execute fuel guarded stage)
          let shell ← get
          finished := max finished shell.lasted
          match shell.streams[sink]? with
          | some (.sink parts) => source := some (← addStream (.source parts.reverse.flatten))
          | _ => source := none
      modify fun shell => { shell with lasted := finished }
      checkExit guarded
    | .negation body =>
      execute fuel true body
      modify fun shell =>
        if shell.isDone then shell else { shell with status := if shell.status = 0 then 1 else 0 }
    | .both first second =>
      execute fuel true first
      let shell ← get
      if !shell.isDone && shell.status = 0 then execute fuel guarded second
    | .either first second =>
      execute fuel true first
      let shell ← get
      if !shell.isDone && shell.status ≠ 0 then execute fuel guarded second
    | .background body =>
      let start := (← get).lasted
      apart do
        connect 0 (← addStream .void)
        process fuel (execute fuel guarded body)
      modify fun shell =>
        { shell.setVariable ['!'] (Letters.ofNat (Shell.processNumber + 1)) with
          background := max shell.background shell.lasted, lasted := start, status := 0 }
    | .redirected body redirects =>
      restoring do
        if ← redirect fuel redirects then execute fuel guarded body
        else if !(← get).isDone then finish 2
      checkExit guarded
    | .subshell body =>
      apart (process fuel (execute fuel guarded body))
      checkExit guarded
    | .branch test body otherwise =>
      execute fuel true test
      let shell ← get
      if !shell.isDone then
        if shell.status = 0 then execute fuel guarded body
        else
          finish 0
          execute fuel guarded otherwise
    | .loop negated test body =>
      inLoop do
        let mut last := 0
        let mut going := true
        for _ in [0:maxRounds] do
          execute fuel true test
          if (← get).isDone then going ← endRound
          else if ((← get).status = 0) == negated then
            going := false
            finish last
          else
            execute fuel guarded body
            last := (← get).status
            going ← endRound
          if !going then break
        if going then stall
    | .each name words body =>
      let values ← match words with
        | some words => fieldsOf fuel words
        | none => pure (← get).arguments
      if (← get).isDone then return
      finish 0
      inLoop do
        for value in values do
          if ← Builtin.assign name value then
            execute fuel guarded body
            if !(← endRound) then break
          else break
    | .choice word cases =>
      let subject ← textOf fuel word
      if (← get).isDone then return
      finish 0
      for (patterns, body) in cases do
        let mut chosen := false
        for pattern in patterns do
          if !chosen && !(← get).isDone then
            let marks := Glyph.marks (← expand fuel pattern)
            chosen := (Pattern.ofMarks (marks.length + 1) marks).matchesAll subject
        if chosen then
          execute fuel guarded body
          break
    | .definition name body =>
      modify fun shell =>
        { shell with status := 0, functions := (name, body) :: shell.functions.filter (·.1 ≠ name) }

end

end Run
end SignerPlugin.Script
