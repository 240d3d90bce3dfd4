import SignerPlugin.Client
import SignerPlugin.ConfigFile

/-! Key resources: which plugin serves a key, and how a client of that plugin is set up. -/

namespace SignerPlugin

/-- The text before a mark and the one behind it, at the first place where the mark stands. -/
def splitAt? (mark : List Char) : List Char → Option (List Char × List Char)
  | [] => if mark.isEmpty then some ([], []) else none
  | c :: rest =>
    if mark.isPrefixOf (c :: rest) then some ([], (c :: rest).drop mark.length)
    else (splitAt? mark rest).map fun (before, after) => (c :: before, after)

/-- The name of a key together with that of the kind of plugin that serves it. -/
structure KeyResource where
  scheme : String
  key : String
  deriving DecidableEq, Repr

namespace KeyResource

/-- What parts the two names. -/
def mark : String := "://"

/-- The resource that a text names. -/
def ofText? (text : String) : Option KeyResource :=
  (splitAt? mark.toList text.toList).map fun (scheme, key) =>
    ⟨String.ofList scheme, String.ofList key⟩

end KeyResource

/-- A client as its settings make it. -/
structure ClientSetup where
  client : Client
  forwardStderr : Bool
  /-- The level that logging is set to. -/
  logLevel : Option LogLevel
  deriving Repr

namespace ClientSetup

/-- Why no client can be set up. -/
inductive Fault
  | badResource (text : String)
  | config (fault : ConfigFault)
  | hash (fault : HashFunc.Fault)
  deriving Repr

def Fault.message : Fault → String
  | .badResource text =>
    "Key resource ID must be of the form <scheme>://<key>: " ++ Text.quoted text
  | .config fault => fault.message
  | .hash fault => fault.message

/-- The program of a kind of plugin: a name to be looked up, or a path in the directory of
plugins. -/
def program (config : ClientConfig) (scheme : String) : String :=
  let name := config.programPrefix.text ++ scheme
  match config.pluginDir with
  | none => name
  | some dir => if dir = "" then name else ((Path.ofText dir).join (Path.ofText name)).toText

/-- The client for a key resource. Its settings count only once the resource is found to be one, and
a hash function that is chosen counts before the one of the settings. -/
def ofResource (text : String) (hash : Option HashFunc.Selector)
    (settings : Except ConfigFault ClientConfig) : Except Fault ClientSetup := do
  let resource ← match KeyResource.ofText? text with
    | some resource => if resource.scheme = "" then throw (.badResource text) else pure resource
    | none => throw (.badResource text)
  let config ← settings.mapError .config
  let hashFunc ← match hash with
    | some selector => (HashFunc.select selector).mapError .hash
    | none => pure config.hashFunc
  return ⟨⟨program config resource.scheme, { keyResourceId := text, hashFunc }⟩,
    config.forwardStderr, config.logLevel⟩

end ClientSetup
end SignerPlugin
