import SignerPlugin.FileTree
import SignerPlugin.Script.Statement

/-! The state that scripts run on: files, channels to read from and write to, variables, and
the time that has passed. -/

namespace SignerPlugin.Script

/-- What a channel leads to. Channels that share a stream share its position. -/
inductive Stream
  /-- A text to be read once. -/
  | source (rest : Letters)
  /-- What has been written, the last part first. -/
  | sink (parts : List Letters)
  | void
  | file (location : Location) (position : Nat) (appends : Bool)

/-- Why the statements that follow are passed over. -/
inductive Departure
  /-- The shell ends. -/
  | exit
  /-- A function or a script that was read in ends. -/
  | leave
  /-- So many loops end. -/
  | broken (levels : Nat)
  /-- So many loops end but for the outermost, which goes on. -/
  | continued (levels : Nat)
  deriving DecidableEq, Repr

/-- The end of a process by a signal. -/
structure Death where
  process : Nat
  signal : Nat
  deriving DecidableEq, Repr

/-- The number of the process that runs the script itself; those within it have higher ones. -/
def Shell.processNumber : Nat := 4242

structure Shell where
  files : FileTree
  streams : Array Stream
  /-- The streams that numbered channels lead to. -/
  channels : List (Nat × Nat)
  bindings : List (Letters × Letters) := []
  /-- The names of the variables that are handed on to other scripts. -/
  exported : List Letters := []
  /-- The names of the variables that must not change any more. -/
  fixed : List Letters := []
  functions : List (Letters × Statement) := []
  documents : List (Nat × Word) := []
  /-- The number of the next document that is read. -/
  nextDocument : Nat := 0
  /-- The number of the process that the shell is, or is a part of. -/
  process : Nat := Shell.processNumber
  name : Letters
  arguments : List Letters := []
  /-- How the last statement ended; zero is success. -/
  status : Nat := 0
  /-- How the last statements ended whose output is part of a word, if the words of this
  statement have any. -/
  substituted : Option Nat := none
  /-- Whether commands understand more than every shell does. -/
  extended : Bool := false
  /-- The letters of the options that are set. -/
  options : List Char := []
  /-- What is to be done on signals, by their numbers; zero is the end of the shell. -/
  traps : List (Nat × Letters) := []
  /-- The variables that functions under way will give back their former values. -/
  locals : List (List (Letters × Option Letters)) := []
  /-- How many loops are under way. -/
  loops : Nat := 0
  departure : Option Departure := none
  /-- The signals that have come and have not been answered yet. -/
  pending : List Nat := []
  /-- The process that has been ended by a signal, and with it what goes on within. -/
  killed : Option Death := none
  /-- How long the run has lasted, in microseconds. -/
  lasted : Nat := 0
  /-- When statements in the background will be done. -/
  background : Nat := 0
  /-- How long the run may last. -/
  limit : Option Nat := none

/-- Steps of a script. -/
abbrev Run := StateM Shell

namespace Shell

def has (shell : Shell) (option : Char) : Bool := shell.options.contains option

/-- Whether nothing more is to be done for now. -/
def isDone (shell : Shell) : Bool := shell.departure.isSome || shell.killed.isSome

/-- The value of a variable. -/
def lookup? (shell : Shell) (name : Letters) : Option Letters := shell.bindings.lookup name

def setVariable (shell : Shell) (name value : Letters) : Shell :=
  { shell with bindings := (name, value) :: shell.bindings.filter (·.1 ≠ name) }

def unsetVariable (shell : Shell) (name : Letters) : Shell :=
  { shell with
    bindings := shell.bindings.filter (·.1 ≠ name)
    exported := shell.exported.filter (· ≠ name) }

/-- The letters that part fields. -/
def separators (shell : Shell) : Letters := (shell.lookup? "IFS".toList).getD [' ', '\t', '\n']

/-- The value of a parameter; all arguments at once are a matter of their own. -/
def parameter? (shell : Shell) (name : Letters) : Option Letters :=
  match name with
  | ['#'] => some (Letters.ofNat shell.arguments.length)
  | ['$'] => some (Letters.ofNat shell.process)
  | ['?'] => some (Letters.ofNat shell.status)
  | ['-'] => some shell.options
  | ['!'] => shell.lookup? ['!']
  | ['@'] => if shell.arguments.isEmpty then none else some ([' '].intercalate shell.arguments)
  | ['*'] =>
    if shell.arguments.isEmpty then none
    else some ((shell.separators.take 1).intercalate shell.arguments)
  | name => match Letters.number? name with
    | some 0 => some shell.name
    | some (n + 1) => shell.arguments[n]?
    | none => shell.lookup? name

/-- The shell after so many microseconds, unless it may not last that long. -/
def pass (shell : Shell) (duration : Nat) : Shell :=
  let lasted := shell.lasted + duration
  if shell.limit.any (· ≤ lasted) then { shell with lasted, killed := some ⟨processNumber, 9⟩ }
    else { shell with lasted }

/-- The shell after a statement in the same files but a process of its own. -/
def rejoin (shell child : Shell) : Shell :=
  { shell with
    files := { child.files with workingDir := shell.files.workingDir }
    streams := child.streams
    nextDocument := max shell.nextDocument child.nextDocument
    lasted := child.lasted
    background := max shell.background child.background
    pending := shell.pending ++ child.pending
    killed := child.killed
    status := child.status }

end Shell

namespace Run

def finish (status : Nat) : Run Unit := modify fun shell => { shell with status }

/-- Ends the shell. -/
def depart (status : Nat) : Run Unit :=
  modify fun shell => { shell with status, departure := some .exit }

/-- Adds a stream, and answers its number. -/
def addStream (stream : Stream) : Run Nat := do
  let shell ← get
  set { shell with streams := shell.streams.push stream }
  return shell.streams.size

def setStream (number : Nat) (stream : Stream) : Run Unit :=
  modify fun shell => { shell with streams := shell.streams.setIfInBounds number stream }

/-- The stream that a channel leads to, with its number. -/
def stream? (channel : Nat) : Run (Option (Nat × Stream)) := do
  let shell ← get
  return (shell.channels.lookup channel).bind fun number =>
    (shell.streams[number]?).map fun stream => (number, stream)

/-- The content of a file with a text written into it, at a position or at its end. -/
def written (content text : Letters) (position : Nat) (appends : Bool) : Letters :=
  if appends || position = content.length then content ++ text
  else
    content.take position ++ List.replicate (position - content.length) '\x00' ++ text ++
      content.drop (position + text.length)

/-- Writes a text to a channel, and tells whether there is anything to write to. -/
def put (channel : Nat) (text : Letters) : Run Bool := do
  match ← stream? channel with
  | some (number, .sink parts) =>
    setStream number (.sink (text :: parts))
    return true
  | some (_, .void) => return true
  | some (number, .file location position appends) =>
    let shell ← get
    match shell.files.node? location with
    | some (.file content mode) =>
      let after := written (Letters.ofBytes content) text position appends
      set { shell with files := shell.files.put location (.file after.toBytes mode) }
      setStream number (.file location
        (if appends then after.length else position + text.length) appends)
      return true
    | _ => return true
  | some (_, .source _) | none => return text.isEmpty

/-- What is left to be read from a channel. -/
def peek (channel : Nat) : Run Letters := do
  match ← stream? channel with
  | some (_, .source rest) => return rest
  | some (_, .file location position _) =>
    match (← get).files.node? location with
    | some (.file content _) => return (Letters.ofBytes content).drop position
    | _ => return []
  | _ => return []

/-- Passes over letters that have been read from a channel. -/
def consume (channel count : Nat) : Run Unit := do
  match ← stream? channel with
  | some (number, .source rest) => setStream number (.source (rest.drop count))
  | some (number, .file location position appends) =>
    setStream number (.file location (position + count) appends)
  | _ => return

/-- Reads all that is left of the input. -/
def takeInput : Run Letters := do
  let text ← peek 0
  consume 0 text.length
  return text

/-- Does something to the channels, and puts them back when it is over. -/
def restoring {α : Type} (action : Run α) : Run α := do
  let channels := (← get).channels
  let result ← action
  modify fun shell => { shell with channels }
  return result

/-- Lets a channel lead to a stream. -/
def connect (channel number : Nat) : Run Unit :=
  modify fun shell =>
    { shell with channels := (channel, number) :: shell.channels.filter (·.1 ≠ channel) }

/-- The mode of files that a script makes. -/
def newMode : Nat := 0o644

/-- The stream of a file that is opened, unless it cannot be. -/
def openFile (opening : Opening) (name : Letters) : Run (Option Nat) := do
  let shell ← get
  match name.toText with
  | "" => return none
  | "/dev/stdin" | "/dev/fd/0" => return shell.channels.lookup 0
  | "/dev/stdout" | "/dev/fd/1" => return shell.channels.lookup 1
  | "/dev/stderr" | "/dev/fd/2" => return shell.channels.lookup 2
  | _ =>
    let isEnded := name.getLast? = some '/'
    match opening, shell.files.place name.toPath with
    | _, .ok (.device _) => if isEnded then return none else some <$> addStream .void
    | .read, .ok (.file location _ _) | .readWrite, .ok (.file location _ _) =>
      some <$> addStream (.file location 0 false)
    | .append, .ok (.file location content _) =>
      some <$> addStream (.file location content.length true)
    | .write, .ok (.file location _ mode) =>
      set { shell with files := shell.files.put location (.file [] mode) }
      some <$> addStream (.file location 0 false)
    | .write, .ok (.vacant location) | .append, .ok (.vacant location) | .readWrite,
      .ok (.vacant location) =>
      if isEnded then return none
      set { shell with files := shell.files.put location (.file [] newMode) }
      some <$> addStream (.file location 0 (opening = .append))
    | _, _ => return none

/-- Runs a step on a copy of the shell that is a process of its own: what it does to files and
streams stays. -/
def apart (action : Run Unit) : Run Unit := do
  let shell ← get
  let (_, child) :=
    action.run { shell with traps := shell.traps.filter (·.2.isEmpty), pending := [] }
  set (shell.rejoin child)

/-- Runs a step as a process with a number of its own: a signal that ends it leaves the shell be. -/
def inProcess (action : Run Unit) : Run Unit := do
  let number := (← get).process + 1
  apart do
    modify fun shell => { shell with process := number }
    action
  modify fun shell => match shell.killed with
    | some death =>
      if death.process = number then { shell with killed := none, status := 128 + death.signal }
        else shell
    | none => shell

/-- Runs a step in a process of its own with a channel into a sink, and answers what it writes
there. -/
def capturing (action : Run Unit) : Run Letters := do
  let number ← addStream (.sink [])
  apart do
    connect 1 number
    action
  match (← get).streams[number]? with
  | some (.sink parts) => return parts.reverse.flatten
  | _ => return []

end Run
end SignerPlugin.Script
