import SignerPlugin.Config.Tree
import SignerPlugin.LogLevel
import SignerPlugin.Schema.Scalar
import SignerPlugin.Text.Quoted

/-! The settings of a client: where plugins are found and how they are run. Each setting has a
value of its own when it is left out, and settings with other names are ignored. -/

namespace SignerPlugin

open Schema
open Text (CodePoint CodeText)

/-- How the names of plugin programs start: with a text that is not empty and stays within one
name. -/
structure ProgramPrefix where
  text : String
  isFragment : text ≠ "" ∧ '/' ∉ text.toList

instance : Repr ProgramPrefix := ⟨fun start _ => repr start.text⟩

instance : DecidableEq ProgramPrefix := fun a b =>
  if same : a.text = b.text then .isTrue (by cases a; cases b; cases same; rfl)
  else .isFalse fun equal => same (equal ▸ rfl)

/-- The start of program names that a text is. -/
def ProgramPrefix.ofText (text : CodeText) : Except CodeText ProgramPrefix :=
  if fragment : text.shown ≠ "" ∧ '/' ∉ text.shown.toList then .ok ⟨text.shown, fragment⟩
  else .error (.ofString ("Invalid executable prefix: " ++ Text.quotedCodes text))

/-- How the names of plugin programs start unless a setting says otherwise. -/
def ProgramPrefix.standard : ProgramPrefix := ⟨"sigstore-kms-", by decide⟩

structure ClientConfig where
  programPrefix : ProgramPrefix := .standard
  /-- The directory of the plugin programs; they are looked up in the search path without one. -/
  pluginDir : Option String := none
  hashFunc : HashFunc := .sha256
  /-- Whether the error output of plugins goes where that of the client goes. -/
  forwardStderr : Bool := true
  /-- The level of logging to set. -/
  logLevel : Option LogLevel := none
  deriving DecidableEq, Repr

namespace ClientConfig

/-- What reports call these settings. -/
def title : String := "ClientConfig"

/-- The levels that can be set. -/
def levels : List LogLevel := [.debug, .info, .warning, .error, .critical]

/-- The level with a name, in capital or small letters. -/
def levelOfText (text : CodeText) : Except CodeText LogLevel :=
  match levels.find? fun level => text.string?.any fun word => level.name = Text.capitals word with
  | some level => .ok level
  | none => .error (.ofString "Invalid log level: " ++ text)

/-- The hash function with a name, in capital or small letters and with hyphens or underscores. -/
def hashOfText (text : CodeText) : Except CodeText HashFunc :=
  let name? := text.string?.map fun word => (Text.capitals word).map fun c =>
    if c = '-' then '_' else c
  match name?.bind HashFunc.ofName? with
  | some hash => .ok hash
  | none => .error (.ofString "Unknown hash function: " ++ text)

/-- What was checked of its own accord: a value, or a reason to refuse it. -/
def verdict {α : Type} : Except CodeText α → Checked α
  | .ok value => .ok value
  | .error reason => .fail (.refused reason)

/-- The text that a tree is. -/
def readText : Config.Tree → Checked CodeText
  | .text value => .ok value
  | .bytes value => match Bytes.text? value with
    | some text => .ok (.ofString text)
    | none => .fail .notUnicode
  | _ => .fail .notAString

/-- The same, unless the tree is null. -/
def readOptionalText : Config.Tree → Checked (Option CodeText)
  | .null => .ok none
  | tree => (readText tree).map some

/-- The directory that a tree names. -/
def readDirectory (tree : Config.Tree) : Checked (Option String) :=
  (readOptionalText tree).map fun text => text.map CodeText.shown

def readPrefix (tree : Config.Tree) : Checked ProgramPrefix :=
  (readText tree).andThen fun text => verdict (ProgramPrefix.ofText text)

/-- A hash function is named by a text, or else by its number. -/
def readHash : Config.Tree → Checked HashFunc
  | .text value => verdict (hashOfText value)
  | tree => Codec.hash.read tree.toScalar

def readSwitch (tree : Config.Tree) : Checked Bool := Codec.bool.read tree.toScalar

def readLevel (tree : Config.Tree) : Checked (Option LogLevel) :=
  (readOptionalText tree).andThen fun
    | none => .ok none
    | some text => (verdict (levelOfText text)).map some

/-- The value of a setting: what is given under its name, or else its own value. -/
def setting {α : Type} (entries : Config.Tree.Entries) (name : String) (value : α)
    (read : Config.Tree → Checked α) : Checked α :=
  match Config.Tree.find? entries name with
  | some tree => (read tree).within (.member name)
  | none => .ok value

/-- The settings that a mapping gives. -/
def ofEntries (entries : Config.Tree.Entries) : Checked ClientConfig :=
  ((((Checked.map ClientConfig.mk (setting entries "executable_prefix" .standard readPrefix)).both
    (setting entries "plugin_dir" none readDirectory)).both
    (setting entries "hash_func" .sha256 readHash)).both
    (setting entries "forward_stderr" true readSwitch)).both
    (setting entries "log_level" none readLevel)

/-- The settings that a tree gives, which must be a mapping. -/
def ofTree (tree : Config.Tree) : Except Report ClientConfig :=
  let checked := match tree with
    | .map entries => ofEntries entries
    | _ => .fail .notAModel
  match checked with
  | .ok config => .ok config
  | .bad issues => .error ⟨title, issues⟩

end ClientConfig
end SignerPlugin
