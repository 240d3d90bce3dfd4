/-! Command lines of programs with options. Words are read from the left. A word that begins
with a dash names an option, or several by their letters; the word `--` ends the options and
is itself no argument; every other word is an argument, wherever it stands. A program says
which options it has, and what becomes of words about others. -/

namespace SignerPlugin

/-- The options of a program. All of them are flags. -/
structure CommandLine where
  /-- The options that are named by words, with their dashes. -/
  names : List String
  /-- The options that are named by letters, several of which can share a dash. -/
  letters : List Char
  /-- Words about other options are arguments, or else they are refused. -/
  keepsUnknown : Bool

namespace CommandLine

/-- What words come to: the flags that they give, and the arguments. -/
structure Parsed where
  flags : List String := []
  arguments : List String := []
  deriving DecidableEq, Repr

/-- A word that names no option of the program. -/
def unknown (line : CommandLine) (word : String) : Option Parsed :=
  if line.keepsUnknown then some { arguments := [word] } else none

/-- Letters behind one dash. Those that are unknown stay behind it. -/
def readLetters (line : CommandLine) (letters : List Char) : Option Parsed :=
  let flags := (letters.filter line.letters.contains).map fun letter => String.ofList ['-', letter]
  let others := letters.filter fun letter => !line.letters.contains letter
  if others.isEmpty then some { flags }
  else (line.unknown (String.ofList ('-' :: others))).map fun kept => { kept with flags }

/-- One word that does not end the options. A flag takes no value, and a lone dash is an
argument. -/
def readWord (line : CommandLine) (word : String) : Option Parsed :=
  let name := String.ofList (word.toList.takeWhile (· ≠ '='))
  if line.names.contains name then
    if name = word then some { flags := [word] } else none
  else match word.toList with
    | ['-'] => some { arguments := [word] }
    | '-' :: '-' :: _ => line.unknown word
    | '-' :: letters => line.readLetters letters
    | _ => some { arguments := [word] }

/-- What a command line comes to, unless a word of it is refused. -/
def read (line : CommandLine) : List String → Option Parsed
  | [] => some {}
  | word :: rest =>
    if word = "--" then some { arguments := rest }
    else do
      let first ← line.readWord word
      let others ← line.read rest
      return ⟨first.flags ++ others.flags, first.arguments ++ others.arguments⟩

end CommandLine
end SignerPlugin
