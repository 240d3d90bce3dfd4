/-! Paths of files in normal form: a root, which may be empty, and names. A path keeps its steps
upwards, since where they lead is known to the file system only. -/

namespace SignerPlugin

structure Path where
  /-- Nothing for a path from the working directory, else one slash or two. -/
  root : String
  /-- The steps from the root; none is empty or a single dot. -/
  names : List String
  deriving DecidableEq, Repr

namespace Path

/-- The names between the slashes of a text. -/
def split : List Char → List (List Char)
  | [] => [[]]
  | '/' :: rest => [] :: split rest
  | c :: rest => match split rest with
    | [] => [[c]]
    | name :: names => (c :: name) :: names

/-- Two slashes in front are a root of their own; any other number of them is one. -/
def rootOf (slashes : Nat) : String :=
  if slashes = 0 then "" else if slashes = 2 then "//" else "/"

/-- The path that a text names. -/
def ofText (text : String) : Path :=
  let chars := text.toList
  ⟨rootOf (chars.takeWhile (· = '/')).length,
    ((split chars).map String.ofList).filter fun name => name ≠ "" && name ≠ "."⟩

/-- The text of a path; the empty path is the working directory. -/
def toText (path : Path) : String :=
  let text := path.root ++ "/".intercalate path.names
  if text = "" then "." else text

/-- What the second path names, seen from the first. -/
def join (base path : Path) : Path :=
  if path.root = "" then ⟨base.root, base.names ++ path.names⟩ else path

/-- The last name of a path. -/
def name (path : Path) : String := path.names.getLast?.getD ""

/-- The path without its last name. -/
def parent (path : Path) : Path := ⟨path.root, path.names.dropLast⟩

/-- The end of the name from its last dot on, unless that dot is its first or last character. -/
def suffix (path : Path) : String :=
  let letters := path.name.toList
  let ending := (letters.reverse.takeWhile (· ≠ '.')).reverse
  let start := letters.length - ending.length
  if ending.isEmpty ∨ start ≤ 1 then "" else String.ofList ('.' :: ending)

end Path
end SignerPlugin
