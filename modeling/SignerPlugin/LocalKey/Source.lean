import SignerPlugin.Client
import SignerPlugin.LocalKey

/-! Signing and checking where messages and signatures stand on sources. A source is read when
the key is known and the content is needed, so a message is left alone when a digest is given
in its place. -/

namespace SignerPlugin.LocalKey

variable {α : Type}

/-- An action with a key in a file beside open streams. -/
abbrev StreamRun (α : Type) := ExceptT LocalKeyFault (StateM (Streams × Disk)) α

/-- An action that leaves the streams alone. -/
def besideStreams (run : Run α) : StreamRun α := ExceptT.mk (Client.besideStreams run.run)

def readSource (source : MessageSource) : StreamRun Bytes := ExceptT.lift (Client.readSource source)

/-- The message, which is not looked at when there is a digest. -/
def readMessage (message : MessageSource) (values : OptionValues) : StreamRun Bytes :=
  match values.digest with
  | some _ => return []
  | none => readSource message

/-- Signs a message on a source, or the digest that an option gives instead. -/
def signFrom (here : LocalKey) (message : MessageSource) (options : List SignerOption) :
    StreamRun Bytes := do
  let values := OptionValues.ofOptions options
  let key ← besideStreams here.privateKey
  let content ← readMessage message values
  ExceptT.mk (pure (here.signWith key content values))

/-- Checks the signature on a source of a message on a source, or of the digest that an option
gives instead. -/
def verifyFrom (here : LocalKey) (signature message : MessageSource) (options : List SignerOption) :
    StreamRun Unit := do
  let values := OptionValues.ofOptions options
  let key ← besideStreams here.privateKey
  let known ← readSource signature
  let content ← readMessage message values
  ExceptT.mk (pure (here.verifyWith key known content values))

end SignerPlugin.LocalKey
