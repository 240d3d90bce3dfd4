import SignerPlugin.ClientConfig
import SignerPlugin.Config.Expansion
import SignerPlugin.FileTree
import SignerPlugin.Json.Fault
import SignerPlugin.Text.Line
import SignerPlugin.Text.Utf8
import SignerPlugin.Yaml.Value

/-! Configuration files: YAML if the name says so and else JSON, with references to variables of the
environment in their texts. -/

namespace SignerPlugin

open Config (Environment Tree)
open Text (CodeText)

/-- Why no settings come from a configuration file. -/
inductive ConfigFault
  | notFound (path : Path)
  | file (fault : FileFault)
  | notText (fault : Text.Utf8.Fault)
  | json (path : Path) (stop : Json.Stop) (text : List Char)
  | yaml (path : Path) (fault : Yaml.Fault)
  | notAMapping (path : Path)
  | expansion (fault : Config.ExpansionFault)
  | invalid (path : Path) (report : Schema.Report)
  /-- The report on invalid settings has a reason that cannot be written. -/
  | unwritable (reason : CodeText)
  deriving Repr

namespace ConfigFault

/-- What a file that cannot be read is reported with. -/
def unreadable (path : Path) : String := "Could not parse " ++ path.toText

/-- What invalid settings are reported with. -/
def rejected (path : Path) (report : Schema.Report) : String :=
  "Invalid configuration in " ++ path.toText ++ ": " ++ report.headline

def message : ConfigFault → String
  | .notFound path => "Configuration file not found: " ++ path.toText
  | .file fault => fault.message
  | .notText fault => fault.message
  | .json path stop text =>
    if stop.cause.isLocal then unreadable path ++ ": " ++ stop.message text else stop.message text
  | .yaml path .malformed => unreadable path
  | .yaml _ fault => fault.message
  | .notAMapping path => "Configuration in " ++ path.toText ++ " must be a mapping"
  | .expansion (.unset missing) => missing.message
  | .expansion .tooDeep => Yaml.Fault.tooDeep.message
  | .invalid path report => rejected path report
  | .unwritable reason => Text.Utf8.unwritable reason

/-- The word for the kind of failure. -/
def label : ConfigFault → String
  | .notFound _ => FileCause.notFound.label
  | .file fault => fault.cause.label
  | .notText _ => "UnicodeDecodeError"
  | .json _ stop _ => stop.cause.label
  | .yaml _ fault => fault.label
  | .expansion .tooDeep => Yaml.Fault.tooDeep.label
  | .unwritable _ => "UnicodeEncodeError"
  | .notAMapping _ | .expansion (.unset _) | .invalid _ _ => "ValueError"

/-- Whether a check of the file answers no to the fault; other faults end the check itself. -/
def isRefusal : ConfigFault → Bool
  | .json _ stop _ => stop.cause.isLocal || (stop.cause matches .longInteger _)
  | .yaml _ fault => fault.isRefusal
  | .expansion fault => fault ≠ .tooDeep
  | _ => true

end ConfigFault

namespace ConfigFile

/-- How deep containers may stand inside one another: in a text of either language, and in a
tree whose references are replaced. No file says so; it is a matter of the machine that reads
it. -/
structure Depths where
  json : Nat
  yaml : Nat
  tree : Nat

def jsonPolicy (depths : Depths) : Json.Policy CodeText := ⟨depths.json, false, some⟩

/-- Whether the name of a file says that it is YAML. -/
def isYaml (path : Path) : Bool :=
  let suffix := path.suffix.map Char.toLower
  suffix = ".yaml" || suffix = ".yml"

/-- The tree that the text of a file stands for. -/
def parse (depths : Depths) (path : Path) (text : List Char) : Except ConfigFault Tree :=
  if isYaml path then (Yaml.parse depths.yaml text).mapError (.yaml path)
  else match Json.readDocument (jsonPolicy depths) text with
    | .ok tree => .ok (.ofJson id tree)
    | .error stop => .error (.json path stop text)

/-- The mapping that a tree is; nothing at all counts as an empty one. -/
def mapping (path : Path) : Tree → Except ConfigFault Tree
  | .null => .ok (.map [])
  | .map entries => .ok (.map entries)
  | _ => .error (.notAMapping path)

/-- The fault that invalid settings are. -/
def faultOf (path : Path) (report : Schema.Report) : ConfigFault :=
  match report.unwritable? with
  | some reason => .unwritable reason
  | none => .invalid path report

/-- The settings in a file. -/
def load (depths : Depths) (files : FileTree) (path : Path) (env : Environment) :
    Except ConfigFault ClientConfig :=
  match files.file? path with
  | .error fault => .error (.file fault)
  | .ok none => .error (.notFound path)
  | .ok (some bytes) => do
    let text ← (Text.Utf8.decode bytes).mapError .notText
    let tree ← parse depths path (Text.unifyLines text.toList)
    let given ← mapping path tree
    let expanded ← (given.expandWithin env depths.tree).mapError .expansion
    (ClientConfig.ofTree expanded).mapError (faultOf path)

/-- Whether a file holds valid settings. -/
def check (depths : Depths) (files : FileTree) (path : Path) (env : Environment) :
    Except ConfigFault Bool :=
  match load depths files path env with
  | .ok _ => .ok true
  | .error fault => if fault.isRefusal then .ok false else .error fault

end ConfigFile
end SignerPlugin
