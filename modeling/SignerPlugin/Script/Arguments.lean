import SignerPlugin.Script.Letters

/-! The arguments of a utility: options, some of which take a value, and operands. -/

namespace SignerPlugin.Script

/-- The options that a utility knows. -/
structure OptionTable where
  /-- The letters of options without a value. -/
  flags : String := ""
  /-- The letters of options with a value. -/
  valued : String := ""
  /-- Long names of options. -/
  long : List (String × Char) := []
  /-- Whether a number may stand for the value of the option with a letter. -/
  number : Option Char := none

/-- Options with their values, and operands. -/
structure Arguments where
  options : List (Char × Letters) := []
  operands : List Letters := []

namespace Arguments

def has (arguments : Arguments) (c : Char) : Bool := arguments.options.any (·.1 = c)

/-- The value of an option; the last one counts. -/
def value? (arguments : Arguments) (c : Char) : Option Letters := arguments.options.reverse.lookup c

/-- The values of all options with a letter, or if there are none the first operand; and the
other operands. -/
def given? (arguments : Arguments) (c : Char) : Option (List Letters × List Letters) :=
  let values :=
    arguments.options.filterMap fun option => if option.1 = c then some option.2 else none
  if !values.isEmpty then some (values, arguments.operands)
  else match arguments.operands with
    | first :: rest => some ([first], rest)
    | [] => none

/-- The options that the letters of one argument make up, and whether the last one takes the
next argument for its value. -/
def cluster? (table : OptionTable) : Letters → Option (List (Char × Letters) × Option Char)
  | [] => some ([], none)
  | c :: rest =>
    if table.valued.toList.contains c then
      some (if rest.isEmpty then ([], some c) else ([(c, rest)], none))
    else if table.flags.toList.contains c then do
      let (options, pending) ← cluster? table rest
      return ((c, []) :: options, pending)
    else none

/-- The option that a long name stands for. -/
def long? (table : OptionTable) (text : Letters) : Option (Char × Option Letters) :=
  let name := text.takeWhile (· ≠ '=')
  let value := if name.length < text.length then some (text.drop (name.length + 1)) else none
  (table.long.find? fun entry => entry.1.toList = name).map fun entry => (entry.2, value)

/-- Reads arguments one by one. There are none if an option is not known. -/
def read? (table : OptionTable) : List Letters → Option Arguments
  | [] => some {}
  | argument :: rest => match argument with
    | ['-', '-'] => some { operands := rest }
    | '-' :: '-' :: text => do
      let (c, value) ← long? table text
      if table.valued.toList.contains c then
        match value, rest with
        | some value, rest =>
          (read? table rest).map fun more => { more with options := (c, value) :: more.options }
        | none, value :: rest =>
          (read? table rest).map fun more => { more with options := (c, value) :: more.options }
        | none, [] => none
      else (read? table rest).map fun more => { more with options := (c, []) :: more.options }
    | '-' :: c :: text =>
      if c.isDigit && table.number.isSome then
        (read? table rest).map fun more =>
          { more with options := (table.number.getD c, c :: text) :: more.options }
      else do
        let (options, pending) ← cluster? table (c :: text)
        match pending, rest with
        | none, rest =>
          (read? table rest).map fun more => { more with options := options ++ more.options }
        | some c, value :: rest =>
          (read? table rest).map fun more =>
            { more with options := options ++ (c, value) :: more.options }
        | some _, [] => none
    | operand =>
      (read? table rest).map fun more => { more with operands := operand :: more.operands }

end Arguments
end SignerPlugin.Script
