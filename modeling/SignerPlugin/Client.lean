import SignerPlugin.Invocation
import SignerPlugin.MessageSource
import SignerPlugin.Options.Packing
import SignerPlugin.Signer

/-! The client of a plugin: it forwards each call to a process of its own and gives back what the
plugin answers. -/

namespace SignerPlugin

open Message Command

/-- How a call of a client can fail. -/
inductive ClientError (θ : Type := String)
  | invocation (error : InvocationError)
  | misplaced (option : MisplacedOption θ)
  /-- The plugin's answer is no public key. -/
  | notAKey (fault : Fault)
  deriving DecidableEq, Repr

structure Client (θ : Type := String) where
  plugin : String
  init : InitOptions θ
  deriving DecidableEq, Repr

namespace Client

open Invocation (Outcome)

variable {τ α κ θ : Type} [PemKey κ] [Text.Writable θ]

/-- Forwards a request; `read` takes its result out of the reply. -/
def call (client : Client θ) (launch : Launch τ) (ctx : CallContext) (now : Instant) (stdin : Bytes)
    (args : MethodArgs θ) (read : PluginResp → Except (ClientError θ) α) :
    StateM τ (Outcome (Except (ClientError θ) α)) := do
  let outcome ← Invocation.invoke launch client.plugin ctx now stdin client.init args
  let result := match outcome.result with
    | .ok reply => read reply
    | .error error => .error (.invocation error)
  return { outcome with result }

/-- Takes a member out of a reply that is known to have it. -/
def part (client : Client θ) (method : Method) : Option α → Except (ClientError θ) α
  | some value => .ok value
  | none => .error (.invocation (.missingResult client.plugin method))

/-- The key that a plugin wrote. -/
def keyOf (written : KeyResp) : Except (ClientError θ) κ :=
  (PemKey.ofPem written.publicKeyPem).mapError .notAKey

def defaultAlgorithm (client : Client θ) (launch : Launch τ) (now : Instant) :
    StateM τ (Outcome (Except (ClientError θ) String)) :=
  client.call launch .background now [] (.defaultAlgorithm {}) fun reply =>
    (client.part .defaultAlgorithm reply.defaultAlgorithm).map (·.defaultAlgorithm)

def supportedAlgorithms (client : Client θ) (launch : Launch τ) (now : Instant) :
    StateM τ (Outcome (Except (ClientError θ) (List String))) :=
  client.call launch .background now [] (.supportedAlgorithms {}) fun reply =>
    (client.part .supportedAlgorithms reply.supportedAlgorithms).map (·.supportedAlgorithms)

def createKey (client : Client θ) (launch : Launch τ) (now : Instant) (ctx : CallContext)
    (algorithm : θ) : StateM τ (Outcome (Except (ClientError θ) κ)) :=
  let args := { ctxDeadline := ctx.deadline.map (·.timestamp), algorithm }
  client.call launch ctx now [] (.createKey args) fun reply => do
    keyOf (← client.part .createKey reply.createKey)

def publicKey (client : Client θ) (launch : Launch τ) (now : Instant)
    (options : List (SignerOption θ)) :
    StateM τ (Outcome (Except (ClientError θ) κ)) :=
  let ctx := (OptionValues.ofOptions options).ctx
  match Options.packPublicKey options with
  | .error option => return ⟨.error (.misplaced option), ctx, now⟩
  | .ok bag =>
    client.call launch ctx now [] (.publicKey ⟨bag⟩) fun reply => do
      keyOf (← client.part .publicKey reply.publicKey)

def signMessage (client : Client θ) (launch : Launch τ) (now : Instant) (message : Bytes)
    (options : List (SignerOption θ)) : StateM τ (Outcome (Except (ClientError θ) Bytes)) :=
  let ctx := (OptionValues.ofOptions options).ctx
  client.call launch ctx now message (.signMessage ⟨Options.packSign options⟩) fun reply =>
    (client.part .signMessage reply.signMessage).map (·.signature)

def verifySignature (client : Client θ) (launch : Launch τ) (now : Instant)
    (signature message : Bytes) (options : List (SignerOption θ)) :
    StateM τ (Outcome (Except (ClientError θ) Unit)) :=
  let ctx := (OptionValues.ofOptions options).ctx
  let args := { signature, verifyOptions := Options.packVerify options }
  client.call launch ctx now message (.verifySignature args) fun _ => .ok ()

/-- Does something in a world in which streams are open, and leaves them as they are. -/
def besideStreams (action : StateM τ α) : StateM (Streams × τ) α := fun (streams, world) =>
  let (answer, after) := action.run world
  (answer, streams, after)

/-- Reads a source in a world in which streams are open. -/
def readSource (source : MessageSource) : StateM (Streams × τ) Bytes := fun (streams, world) =>
  let (content, after) := source.read.run streams
  (content, after, world)

/-- Signs a message that is read first. -/
def signMessageFrom (client : Client θ) (launch : Launch τ) (now : Instant)
    (message : MessageSource) (options : List (SignerOption θ)) :
    StateM (Streams × τ) (Outcome (Except (ClientError θ) Bytes)) := do
  let message ← readSource message
  besideStreams (client.signMessage launch now message options)

/-- Checks a signature that is read first, on a message that is read after it. -/
def verifySignatureFrom (client : Client θ) (launch : Launch τ) (now : Instant)
    (signature message : MessageSource) (options : List (SignerOption θ)) :
    StateM (Streams × τ) (Outcome (Except (ClientError θ) Unit)) := do
  let signature ← readSource signature
  let message ← readSource message
  besideStreams (client.verifySignature launch now signature message options)

end Client
end SignerPlugin
