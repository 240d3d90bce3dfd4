import SignerPlugin.Command
import SignerPlugin.Script.Run

/-! Launching commands that name scripts: what they leave in a tree of files, what they write
and how they end. -/

namespace SignerPlugin.Script

/-- An argument is shorter than this, in bytes. -/
def maxArgument : Nat := 131072

/-- Why a file cannot be run that a path leads to, if it cannot. The program that it names
must itself be one that can be run; the fuel bounds how many files may name each other. -/
def refusal? (files : FileTree) : (fuel : Nat) → (name : Letters) → Option FileCause
  | 0, _ => some .badFormat
  | fuel + 1, name =>
    match files.place name.toPath with
    | .ok (.file _ content mode) =>
      if mode % 2 = 0 then some .notExecutable
      else match Run.interpreterOf (Letters.ofBytes content) with
        | none | some [] => some .badFormat
        | some (program :: _) =>
          let isKnown :=
            program.contains '/' && ((Run.programName? program).filter Run.isProgram).isSome
          if isKnown then none else refusal? files fuel program
    | .ok (.directory _) | .ok (.device _) => some .notExecutable
    | .ok (.vacant _) => some .notFound
    | .error cause => some cause

/-- Why a command cannot be launched, if it cannot. -/
def obstacle? (files : FileTree) (command : SignerPlugin.Command) : Option FileCause :=
  if (command.name :: command.arguments).any fun word =>
    word.toList.contains '\x00' then some .nullCharacter
  else if command.arguments.any fun argument =>
    maxArgument ≤ argument.utf8ByteSize then some .argumentTooLong
  else if !command.name.contains '/' then some .notFound
  else refusal? files 5 (Letters.ofText command.name)

/-- The variables that a script finds and hands on. -/
def surroundings : List (Letters × Letters) :=
  [("PATH".toList, "/usr/local/bin:/usr/local/sbin:/usr/local/bin:/usr/sbin:/usr/bin:/sbin:/bin".toList)]

/-- A shell in front of a command. Its input is a text, its output is kept, and what it writes
of its own troubles is not. -/
def Shell.start (files : FileTree) (limit : Option Nat) (name : Letters) (input : Bytes) : Shell :=
  { files, limit, name
    streams := #[.source (Letters.ofBytes input), .sink [], .void]
    channels := [(0, 0), (1, 1), (2, 2)]
    bindings := surroundings
    exported := surroundings.map (·.1) }

/-- What has been written to the output. -/
def Shell.output (shell : Shell) : Bytes :=
  match (shell.streams[1]? : Option Stream) with
  | some (.sink parts) => Letters.toBytes parts.reverse.flatten
  | _ => []

/-- How deep statements may stand within each other. -/
def maxDepth : Nat := 2000

/-- Runs commands as scripts in a tree of files. -/
def launch : SignerPlugin.Command.Launch FileTree := fun limit command => do
  let files ← get
  match obstacle? files command with
  | some cause => return { outcome := .failed (FileFault.mk cause command.name).message }
  | none =>
    let name := Letters.ofText command.name
    let action := Run.runProgram maxDepth true name (command.arguments.map Letters.ofText)
    let (_, shell) := action.run (.start files limit name command.stdin)
    set { shell.files with workingDir := files.workingDir }
    let status : Int := match shell.killed with
      | some death => -(death.signal : Int)
      | none => shell.status
    return { lasts := max shell.lasted shell.background,
             outcome := .ofStatus (command.name :: command.arguments) status shell.output }

end SignerPlugin.Script
