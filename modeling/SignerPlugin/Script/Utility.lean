import SignerPlugin.Script.Builtin

/-! The commands on files, and those that show what is handed on. -/

namespace SignerPlugin.Script.Utility

open Run

/-- Runs a step for each operand; the status tells whether all went well. -/
def forEach (operands : List Letters) (step : Letters → Run Bool) : Run Unit := do
  let mut fine := !operands.isEmpty
  for operand in operands do
    fine := (← step operand) && fine
  finish (if fine then 0 else 1)

/-- Changes the files, unless something is in the way. -/
def change (result : Except FileFault FileTree) : Run Bool := do
  match result with
  | .ok files =>
    modify fun shell => { shell with files }
    return true
  | .error _ => return false

def place (name : Letters) : Run (Except FileCause FileTree.Place) := do
  if name.isEmpty then return .error .notFound
  else return (← get).files.place name.toPath

/-- Makes files that are not there. -/
def touch : Builtin := fun arguments =>
  match Arguments.read? { flags := "acm", valued := "drt" } arguments with
  | none => finish 1
  | some options => forEach options.operands fun name => do
    match ← place name with
    | .ok (.vacant _) =>
      if options.has 'c' then return true
      else change ((← get).files.write name.toPath [] newMode)
    | .ok _ => return true
    | .error _ => return false

def mkdir : Builtin := fun arguments =>
  match Arguments.read? { flags := "pv", valued := "m", long := [("parents", 'p')] } arguments with
  | none => finish 1
  | some options => forEach options.operands fun name => do
    let shell ← get
    if name.isEmpty then return false
    else if options.has 'p' then
      let (fault, files) := shell.files.makeDirectories name.toPath
      set { shell with files }
      return fault.isNone
    else match ← place name with
      | .ok (.vacant _) => change (shell.files.makeDirectory name.toPath)
      | _ => return false

/-- Removes files; and directories with all that is in them, if told so. -/
def rm : Builtin := fun arguments =>
  match Arguments.read? { flags := "rRfdvi", long := [("force", 'f'), ("recursive", 'r')] }
    arguments with
  | none => finish 1
  | some options =>
    if options.operands.isEmpty && options.has 'f' then finish 0
    else forEach options.operands fun name => do
      let shell ← get
      match ← place name with
      | .ok (.file location _ _) =>
        set { shell with files := shell.files.remove location }
        return true
      | .ok (.directory location) =>
        if (options.has 'r' || options.has 'R') && !location.isPrefixOf shell.files.workingDir then
          set { shell with files := shell.files.remove location }
          return true
        else return false
      | _ => return options.has 'f'

def rmdir : Builtin := fun arguments => forEach arguments fun name => do
  let shell ← get
  match ← place name with
  | .ok (.directory location) =>
    if (shell.files.children location).isEmpty then
      set { shell with files := shell.files.remove location }
      return true
    else return false
  | _ => return false

/-- Where a file goes that is put to a path: into it, if that is a directory. -/
def destination (source target : Letters) : Run Letters := do
  match ← place target with
  | .ok (.directory _) =>
    let name := (source.reverse.dropWhile (· = '/')).takeWhile (· ≠ '/')
    return target ++ '/' :: name.reverse
  | _ => return target

/-- Puts files, and directories with all that is in them, to a path. -/
def transfer (keeps : Bool) : Builtin := fun arguments =>
  match Arguments.read? { flags := "fnpavrRiT", long := [("force", 'f'), ("recursive", 'r')] }
    arguments with
  | none => finish 1
  | some options => match options.operands.getLast? with
    | none => finish 1
    | some target => forEach options.operands.dropLast fun source => do
      let target ← destination source target
      let whole := !keeps || ['r', 'R', 'a'].any options.has
      match ← place source, ← place target with
      | .ok (.file location content mode), .ok (.file other _ old) =>
        if other = location then return false
        else
          modify fun shell =>
            let files := if keeps then shell.files else shell.files.remove location
            { shell with files := files.put other (.file content (if keeps then old else mode)) }
          return true
      | .ok (.file location content mode), .ok (.vacant other) =>
        modify fun shell =>
          let files := if keeps then shell.files else shell.files.remove location
          { shell with files := files.put other (.file content mode) }
        return true
      | .ok (.directory location), .ok (.vacant other) =>
        if !whole || location.isPrefixOf other then return false
        else
          modify fun shell =>
            let files := if keeps then shell.files else shell.files.remove location
            { shell with
              files := { files with nodes := shell.files.copies location other ++ files.nodes } }
          return true
      | _, _ => return false

/-- The mode that a word makes of another one: it is written in octal digits, or as letters
behind a sign. -/
def mode? (word : Letters) (mode : Nat) : Option Nat :=
  if !word.isEmpty && word.all Format.isOctal then some
    (word.foldl (fun sum c => sum * 8 + (c.toNat - 48)) 0)
  else
    let who := word.takeWhile fun c => ['u', 'g', 'o', 'a'].contains c
    let everyone := who.isEmpty || who.contains 'a'
    match word.drop who.length with
    | sign :: letters =>
      let bit (c : Char) : Nat :=
        if c = 'r' then 4 else if c = 'w' then 2 else if c = 'x' then 1 else 0
      let bits := letters.foldl (fun sum c => sum ||| bit c) 0
      let mask := (if everyone || who.contains 'u' then bits * 64 else 0) |||
        (if everyone || who.contains 'g' then bits * 8 else 0) |||
          (if everyone || who.contains 'o' then bits else 0)
      if sign = '+' then some (mode ||| mask)
      else if sign = '-' then some (mode - (mode &&& mask))
      else none
    | [] => none

def chmod : Builtin := fun arguments =>
  match arguments with
  | word :: names => forEach names fun name => do
    match ← place name with
    | .ok (.file location content mode) =>
      match mode? word mode with
      | some mode =>
        modify fun shell => { shell with files := shell.files.put location (.file content mode) }
        return true
      | none => return false
    | .ok (.directory _) => return true
    | _ => return false
  | [] => finish 1

/-- Passes the input on, and writes it to files, too. -/
def tee : Builtin := fun arguments => do
  match Arguments.read? { flags := "ai", long := [("append", 'a')] } arguments with
  | none => finish 1
  | some options =>
    let input ← peek 0
    consume 0 input.length
    let mut fine ← put 1 input
    for name in options.operands do
      let channels := (← get).channels
      match ← openFile (if options.has 'a' then .append else .write) name with
      | some number =>
        connect 9 number
        fine := (← put 9 input) && fine
      | none => fine := false
      modify fun shell => { shell with channels }
    finish (if fine then 0 else 1)

/-- The names in directories, one on each line. -/
def ls : Builtin := fun arguments => do
  match Arguments.read? { flags := "1aAdrpF" } arguments with
  | none => finish 2
  | some options =>
    let shell ← get
    let sorted (names : List Letters) : List Letters :=
      let names := names.mergeSort fun a b => !isBefore b a
      if options.has 'r' then names.reverse else names
    let names := if options.operands.isEmpty then [['.']] else options.operands
    let placed := names.map fun name => (name, shell.files.place (Letters.toPath name))
    let files := placed.filterMap fun (name, found) => match found with
      | .ok (.file _ _ _) => some name
      | .ok (.directory _) => if options.has 'd' then some name else none
      | _ => none
    let directories := placed.filterMap fun (name, found) => match found with
      | .ok (.directory location) => if options.has 'd' then none else some (name, location)
      | _ => none
    let listed (location : Location) : List Letters :=
      let inner := sorted ((shell.files.children location).map Letters.ofText)
      if options.has 'a' then ['.'] :: ['.', '.'] :: inner
      else if options.has 'A' then inner else inner.filter (·.head? ≠ some '.')
    let parts := directories.map fun (name, location) =>
      (if names.length > 1 then name ++ [':', '\n'] else []) ++ Letters.ofLines (listed location)
    let first := Letters.ofLines (sorted files)
    let output := ['\n'].intercalate (if first.isEmpty then parts else first :: parts)
    Builtin.say output (if files.length + directories.length = names.length then 0 else 2)

/-- The variables that are handed on. -/
def environment (shell : Shell) : List (Letters × Letters) :=
  shell.bindings.reverse.filter fun entry => shell.exported.contains entry.1

def printenv : Builtin := fun arguments => do
  let handed := environment (← get)
  if arguments.isEmpty then
    Builtin.say (Letters.ofLines (handed.map fun (name, value) => name ++ '=' :: value)) 0
  else
    let found := arguments.filterMap fun name => handed.lookup name
    Builtin.say (Letters.ofLines found) (if found.length = arguments.length then 0 else 1)

/-- Makes a file of its own for passing use, and puts out its path. -/
def mktemp : Builtin := fun arguments => do
  let shell ← get
  let name := Letters.ofText ("/tmp/tmp." ++ toString (1000000000 + shell.files.nodes.length))
  let made := if arguments.contains ['-', 'd'] then shell.files.makeDirectory name.toPath
    else shell.files.write name.toPath [] 0o600
  if ← change made then Builtin.say (name ++ ['\n']) 0 else finish 1

def all : List (String × Builtin) :=
  [("chmod", chmod), ("cp", transfer true), ("ls", ls), ("mkdir", mkdir), ("mktemp", mktemp),
    ("mv", transfer false), ("printenv", printenv), ("rm", rm), ("rmdir", rmdir),
    ("sleep", Builtin.sleep),
    ("sync", fun _ => finish 0), ("tee", tee), ("touch", touch)]

/-- Runs a filter on the input. -/
def ofFilter (filter : Filter) : Builtin := fun arguments => do
  let input ← peek 0
  let files := (← get).files
  let file? (name : Letters) : Option Letters :=
    if name = "/dev/stdin".toList then some input
    else (files.content? name.toPath).map Letters.ofBytes
  let rewinds := match ← stream? 0 with
    | some (_, .file _ _ _) => true
    | _ => false
  let reply := filter { arguments, input, rewinds, file? }
  if reply.drains then consume 0 (min input.length (reply.most.getD input.length))
  Builtin.say reply.output reply.status

/-- What stands in for signs in a word. -/
def filled (signs value : Letters) : (fuel : Nat) → Letters → Letters
  | 0, word => word
  | _, [] => []
  | fuel + 1, c :: rest =>
    if signs.isPrefixOf (c :: rest) then value ++ filled signs value fuel
      ((c :: rest).drop signs.length)
    else c :: filled signs value fuel rest

/-- The commands of the shell that are programs, too. -/
def shared : List String := ["[", "echo", "false", "kill", "printf", "pwd", "test", "true"]

/-- The command that a program by a name is. -/
def ofName? (name : String) : Option Builtin :=
  if shared.contains name then Builtin.regular.lookup name
  else match Filter.ofName? name with
    | some filter => some (ofFilter filter)
    | none => all.lookup name

end SignerPlugin.Script.Utility
