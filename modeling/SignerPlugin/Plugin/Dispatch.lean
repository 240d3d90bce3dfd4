import SignerPlugin.CryptoSigner
import SignerPlugin.Message.Form
import SignerPlugin.MessageSource
import SignerPlugin.Options.Packing
import SignerPlugin.Signer

/-! Requests put to a signer. Every request comes to one reply: the result of its method, or
the message of the failure. A request whose deadline has passed is not put to the signer at
all. A reply with a text that cannot be written is not written, not even in part. -/

namespace SignerPlugin.Plugin

open Message
open Text (CodeText Unwritable)

variable {σ κ : Type} [PemKey κ]

def unaware (fault : UnawareDeadline) : Fault := ⟨"invalid deadline", fault.message⟩

/-- The key as results have it. -/
def written (key : κ) : Except Fault KeyResp := (PemKey.toPem key).map .mk

/-- The result of a request's method, by the signer. -/
def perform (signer : Signer σ κ) (now : Instant) (stdin : Bytes) :
    MethodArgs → Action σ (PluginResp CodeText)
  | .defaultAlgorithm _ => do
    return { defaultAlgorithm := some ⟨← signer.defaultAlgorithm⟩ }
  | .supportedAlgorithms _ => do
    return { supportedAlgorithms := some ⟨← signer.supportedAlgorithms⟩ }
  | .createKey args => do
    let ctx ← Action.ofExcept unaware (CallContext.ofTimestamp args.ctxDeadline)
    let key ← Action.under ctx now (signer.createKey ctx args.algorithm)
    return { createKey := some (← Action.ofExcept id (written key)) }
  | .publicKey args => do
    let options ← Action.ofExcept unaware (Options.unpackPublicKey args.publicKeyOptions)
    let ctx := (OptionValues.ofOptions options).ctx
    let key ← Action.under ctx now (signer.publicKey options)
    return { publicKey := some (← Action.ofExcept id (written key)) }
  | .signMessage args => do
    let options ← Action.ofExcept unaware (Options.unpackSign args.signOptions)
    let ctx := (OptionValues.ofOptions options).ctx
    let signature ← Action.under ctx now (signer.signMessage stdin options)
    return { signMessage := some ⟨signature⟩ }
  | .verifySignature args => do
    let options ← Action.ofExcept unaware (Options.unpackVerify args.verifyOptions)
    let ctx := (OptionValues.ofOptions options).ctx
    Action.under ctx now (signer.verifySignature args.signature stdin options)
    return { verifySignature := some {} }

/-- The reply that tells how a method went. -/
def telling : Except Fault (PluginResp CodeText) → PluginResp CodeText
  | .ok result => result
  | .error fault => .failure fault.message

/-- The reply to a request. -/
def reply (signer : Signer σ κ) (now : Instant) (stdin : Bytes) (args : MethodArgs) :
    StateM σ (PluginResp CodeText) := do
  return telling (← (perform signer now stdin args).run)

/-- The text of the reply, which is all that a plugin writes. -/
def dispatch (signer : Signer σ κ) (now : Instant) (stdin : Bytes) (args : MethodArgs) :
    StateM σ (Except Unwritable String) := do
  return (← reply signer now stdin args).written.map PluginResp.form.encode

/-- Writes a reply behind what stands on an output already, and tells how many bytes that took. -/
def writeReply {θ : Type} [Text.Writable θ] (output : Bytes) (reply : PluginResp θ) :
    Bytes × Except Unwritable Nat :=
  match reply.written with
  | .error fault => (output, .error fault)
  | .ok reply =>
    let document := Bytes.ofText (PluginResp.form.encode reply)
    (output ++ document, .ok document.length)

/-- Writes the reply to a request on an output, and tells how many bytes that took. -/
def respond (signer : Signer σ κ) (now : Instant) (stdin : Bytes) (args : MethodArgs)
    (output : Bytes) :
    StateM σ (Bytes × Except Unwritable Nat) := do
  return writeReply output (← reply signer now stdin args)

/-- What a plugin serves: a signer beside open streams, of which a plain signer can also be made. -/
structure Backend (σ : Type) (κ : Type := PublicKey) extends Signer (Streams × σ) κ where
  cryptoSigner : (ctx : CallContext) → Action (Streams × σ) CryptoSigner

end SignerPlugin.Plugin
