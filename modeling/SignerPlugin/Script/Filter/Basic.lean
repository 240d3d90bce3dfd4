import SignerPlugin.Script.Arguments

/-! Utilities that put out what they make of their input or of files. -/

namespace SignerPlugin.Script

/-- What a utility is called with. -/
structure Call where
  arguments : List Letters
  input : Letters
  /-- Whether what has been read of the input can be given back. -/
  rewinds : Bool
  /-- The content of a file. -/
  file? : Letters → Option Letters

/-- What a utility puts out. -/
structure Reply where
  output : Letters := []
  status : Nat := 0
  /-- Whether it has read its input. -/
  drains : Bool := false
  /-- How much of its input it has read, if not all. -/
  most : Option Nat := none

abbrev Filter := Call → Reply

/-- Whether an operand names the input. -/
def isInput (name : Letters) : Bool := name = ['-']

/-- What operands name: the input, if there is none, and otherwise contents, as far as they
are there. -/
def Call.sources (call : Call) (operands : List Letters) : List (Letters × Option Letters) :=
  if operands.isEmpty then [(['-'], some call.input)]
  else operands.map fun name => (name, if isInput name then some call.input else call.file? name)

namespace Filter

/-- The reply to a call that is not understood. -/
def refusal : Reply := { status := 1 }

/-- Reads the options of a call. -/
def withArguments (table : OptionTable) (filter : Call → Arguments → Reply) : Filter := fun call =>
  match Arguments.read? table call.arguments with
  | some arguments => filter call arguments
  | none => refusal

/-- Whether operands name the input. -/
def drainsFor (operands : List Letters) : Bool := operands.isEmpty || operands.any isInput

/-- Puts out what becomes of each source; one that is missing makes the status 1. -/
def overEach (call : Call) (operands : List Letters) (make : Letters → Letters) : Reply :=
  let sources := call.sources operands
  { output := sources.flatMap fun source => (source.2.map make).getD []
    status := if sources.all (·.2.isSome) then 0 else 1
    drains := drainsFor operands }

/-- Puts out what becomes of all sources together. -/
def overAll (call : Call) (operands : List Letters) (make : Letters → Letters) : Reply :=
  let sources := call.sources operands
  { output := make (sources.flatMap fun source => source.2.getD [])
    status := if sources.all (·.2.isSome) then 0 else 1
    drains := drainsFor operands }

/-- A text with blanks in front up to a width. -/
def right (width : Nat) (text : Letters) : Letters :=
  List.replicate (width - text.length) ' ' ++ text

/-- A number with a suffix that multiplies it. -/
def quantity? (text : Letters) : Option Nat :=
  let digits := text.takeWhile Char.isDigit
  (Letters.number? digits).bind fun n => match String.ofList (text.drop digits.length) with
    | "" => some n
    | "b" => some (n * 512)
    | "k" | "K" | "KiB" => some (n * 1024)
    | "kB" => some (n * 1000)
    | "M" | "MiB" => some (n * 1048576)
    | "MB" => some (n * 1000000)
    | _ => none

/-- A list in groups of a size. The fuel bounds the groups. -/
def grouped {α : Type} (size : Nat) : (fuel : Nat) → List α → List (List α)
  | 0, _ | _, [] => []
  | fuel + 1, items => items.take size :: grouped size fuel (items.drop size)

end Filter
end SignerPlugin.Script
