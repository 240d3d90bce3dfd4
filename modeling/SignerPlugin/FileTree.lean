import SignerPlugin.Bytes
import SignerPlugin.Path
import SignerPlugin.Text.Quoted

/-! Trees of files. A path is followed step by step through directories, so what it leads to
depends on which of them are there. -/

namespace SignerPlugin

/-- A place in a tree: the names on the way to it from the root. -/
abbrev Location := List String

inductive FileNode
  | directory
  | file (content : Bytes) (mode : Nat)
  /-- Something that is no file: there is nothing to read from it. -/
  | device
  deriving DecidableEq, Repr

structure FileTree where
  /-- Where paths without a root start. -/
  workingDir : Location := []
  /-- What stands where; of several nodes at one place the first counts. The root is a directory. -/
  nodes : List (Location × FileNode) := []
  deriving DecidableEq, Repr

/-- Why a path cannot be used. -/
inductive FileCause
  | notFound
  | argumentTooLong
  | notExecutable
  | badFormat
  | exists
  | notADirectory
  | isADirectory
  | nameTooLong
  /-- There is a null character in the path, which no file system takes. -/
  | nullCharacter
  deriving DecidableEq, Repr

/-- The number of a cause. A path that is not put to the file system at all has no number. -/
def FileCause.number? : FileCause → Option Nat
  | .notFound => some 2
  | .argumentTooLong => some 7
  | .badFormat => some 8
  | .notExecutable => some 13
  | .exists => some 17
  | .notADirectory => some 20
  | .isADirectory => some 21
  | .nameTooLong => some 36
  | .nullCharacter => none

def FileCause.text : FileCause → String
  | .notFound => "No such file or directory"
  | .argumentTooLong => "Argument list too long"
  | .badFormat => "Exec format error"
  | .notExecutable => "Permission denied"
  | .exists => "File exists"
  | .notADirectory => "Not a directory"
  | .isADirectory => "Is a directory"
  | .nameTooLong => "File name too long"
  | .nullCharacter => "embedded null byte"

/-- The word for the kind of failure. -/
def FileCause.label : FileCause → String
  | .notFound => "FileNotFoundError"
  | .argumentTooLong | .badFormat | .nameTooLong => "OSError"
  | .notExecutable => "PermissionError"
  | .exists => "FileExistsError"
  | .notADirectory => "NotADirectoryError"
  | .isADirectory => "IsADirectoryError"
  | .nullCharacter => "ValueError"

structure FileFault where
  cause : FileCause
  path : String
  deriving DecidableEq, Repr

/-- A cause with a number is told with its path, any other one without. -/
def FileFault.message (fault : FileFault) : String :=
  match fault.cause.number? with
  | some number =>
    "[Errno " ++ toString number ++ "] " ++ fault.cause.text ++ ": " ++ Text.quoted fault.path
  | none => fault.cause.text

namespace FileTree

/-- Where a path leads. -/
inductive Place
  | directory (location : Location)
  | file (location : Location) (content : Bytes) (mode : Nat)
  | device (location : Location)
  /-- Nothing stands there, but the directory around it is there. -/
  | vacant (location : Location)
  deriving DecidableEq, Repr

def node? (tree : FileTree) (location : Location) : Option FileNode :=
  if location = [] then some .directory else tree.nodes.lookup location

/-- The tree with one more node, in place of what stood there. -/
def put (tree : FileTree) (location : Location) (node : FileNode) : FileTree :=
  { tree with nodes := (location, node) :: tree.nodes }

/-- The most bytes that a name has. -/
def maxName : Nat := 255

/-- The most bytes that the text of a path has. -/
def maxPath : Nat := 4095

/-- Follows names from a directory on. -/
def walk (tree : FileTree) (start : Location) : List String → Except FileCause Place
  | [] => .ok (.directory start)
  | name :: rest =>
    if name = ".." then tree.walk start.dropLast rest
    else if maxName < name.utf8ByteSize then .error .nameTooLong
    else
      let next := start ++ [name]
      match tree.node? next with
      | some .directory => tree.walk next rest
      | some (.file content mode) =>
        if rest.isEmpty then .ok (.file next content mode) else .error .notADirectory
      | some .device => if rest.isEmpty then .ok (.device next) else .error .notADirectory
      | none => if rest.isEmpty then .ok (.vacant next) else .error .notFound

/-- Where a path leads. -/
def place (tree : FileTree) (path : Path) : Except FileCause Place :=
  if path.toText.toList.contains '\x00' then .error .nullCharacter
  else if maxPath < path.toText.utf8ByteSize then .error .nameTooLong
  else tree.walk (if path.root = "" then tree.workingDir else []) path.names

/-- Whether a path leads to something. -/
def has (tree : FileTree) (path : Path) : Bool :=
  match tree.place path with
  | .ok (.vacant _) | .error _ => false
  | .ok _ => true

/-- The content of the file or device that a path leads to. -/
def content? (tree : FileTree) (path : Path) : Option Bytes :=
  match tree.place path with
  | .ok (.file _ content _) => some content
  | .ok (.device _) => some []
  | _ => none

/-- The mode of the file that a path leads to. -/
def mode? (tree : FileTree) (path : Path) : Option Nat :=
  match tree.place path with
  | .ok (.file _ _ mode) => some mode
  | _ => none

/-- The content of a file or device that must be there. -/
def read (tree : FileTree) (path : Path) : Except FileFault Bytes :=
  match tree.place path with
  | .ok (.file _ content _) => .ok content
  | .ok (.device _) => .ok []
  | .ok (.directory _) => .error ⟨.isADirectory, path.toText⟩
  | .ok (.vacant _) => .error ⟨.notFound, path.toText⟩
  | .error cause => .error ⟨cause, path.toText⟩

/-- Whether a path leads to something, or why that cannot be told. -/
def exists? (tree : FileTree) (path : Path) : Except FileFault Bool :=
  match tree.place path with
  | .error .nameTooLong => .error ⟨.nameTooLong, path.toText⟩
  | .ok (.vacant _) | .error _ => .ok false
  | .ok _ => .ok true

/-- The content of the file that a path leads to, or why that cannot be told. -/
def file? (tree : FileTree) (path : Path) : Except FileFault (Option Bytes) :=
  match tree.place path with
  | .error .nameTooLong => .error ⟨.nameTooLong, path.toText⟩
  | .ok (.file _ content _) => .ok (some content)
  | _ => .ok none

/-- Makes a directory, if it is not there, in a directory that is there. -/
def makeDirectory (tree : FileTree) (path : Path) : Except FileFault FileTree :=
  match tree.place path with
  | .ok (.directory _) => .ok tree
  | .ok (.vacant location) => .ok (tree.put location .directory)
  | .ok (.file _ _ _) | .ok (.device _) => .error ⟨.exists, path.toText⟩
  | .error cause => .error ⟨cause, path.toText⟩

/-- Makes the directory that the first `count` names of a path lead to, and those around it as
far as they are not there. What was made stays when a later directory cannot be made. -/
def makeStages (path : Path) : (count : Nat) → FileTree → Option FileFault × FileTree
  | 0, tree => (none, tree)
  | count + 1, tree =>
    let stage : Path := ⟨path.root, path.names.take (count + 1)⟩
    match tree.makeDirectory stage with
    | .ok made => (none, made)
    | .error fault =>
      if fault.cause ≠ .notFound then (some fault, tree)
      else match makeStages path count tree with
        | (some fault, tree) => (some fault, tree)
        | (none, tree) => match tree.makeDirectory stage with
          | .ok made => (none, made)
          | .error fault => (some fault, tree)

/-- Makes a directory and those around it, as far as they are not there. -/
def makeDirectories (tree : FileTree) (path : Path) : Option FileFault × FileTree :=
  makeStages path path.names.length tree

/-- Writes a file into a directory that is there. A device keeps nothing. -/
def write (tree : FileTree) (path : Path) (content : Bytes) (mode : Nat) :
    Except FileFault FileTree :=
  match tree.place path with
  | .ok (.file location _ _) | .ok (.vacant location) =>
    .ok (tree.put location (.file content mode))
  | .ok (.device _) => .ok tree
  | .ok (.directory _) => .error ⟨.isADirectory, path.toText⟩
  | .error cause => .error ⟨cause, path.toText⟩

/-- The names of what stands in a directory, each once. -/
def children (tree : FileTree) (location : Location) : List String :=
  let names := tree.nodes.filterMap fun (place, _) =>
    if place.dropLast = location && !place.isEmpty then place.getLast? else none
  names.eraseDups

/-- The tree without what stands at a location or below it. -/
def remove (tree : FileTree) (location : Location) : FileTree :=
  { tree with nodes := tree.nodes.filter fun (place, _) => !location.isPrefixOf place }

/-- What stands at a location or below it, as it would stand at another one. -/
def copies (tree : FileTree) (location target : Location) : List (Location × FileNode) :=
  tree.nodes.filterMap fun (place, node) =>
    if location.isPrefixOf place then some (target ++ place.drop location.length, node) else none

/-- The directories that stand in the root of every system. -/
def systemDirectories : List String :=
  ["bin", "boot", "dev", "etc", "home", "lib", "media", "mnt", "opt", "proc", "root", "run",
    "sbin", "srv", "sys", "tmp", "usr", "var"]

/-- A tree with an empty working directory among what is there on every system. -/
def fresh : FileTree where
  workingDir := ["tmp", "work"]
  nodes := (["tmp", "work"], .directory) :: (["dev", "null"], .device) ::
    systemDirectories.map fun name => ([name], .directory)

/-- Adds a file with the directories around it to a tree where nothing is in the way. -/
def withFile (tree : FileTree) (path : Path) (content : Bytes) (mode : Nat) : FileTree :=
  let (_, ready) := tree.makeDirectories path.parent
  (ready.write path content mode).toOption.getD ready

end FileTree
end SignerPlugin
