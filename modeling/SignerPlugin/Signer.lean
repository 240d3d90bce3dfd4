import SignerPlugin.Key.PublicKey
import SignerPlugin.Options
import SignerPlugin.Text.Writable

/-! Signers: whatever can create a key, show its public half, and make and check signatures
with it. A signer acts on a state of its own, and each of its actions answers or fails.
Nothing keeps surrogates out of the texts that it answers or fails with. -/

namespace SignerPlugin

open Text (CodeText)

/-- How an action failed: the kind of the failure, and a text that may be empty. -/
structure Fault where
  label : String
  text : CodeText
  deriving DecidableEq, Repr

/-- What is reported of a failure: its text, or its kind if it has none. -/
def Fault.message (fault : Fault) : CodeText := if fault.text = [] then fault.label else fault.text

/-- Public keys of some library, with their form in texts. Both directions can fail. -/
class PemKey (κ : Type) where
  toPem : κ → Except Fault Bytes
  ofPem : Bytes → Except Fault κ

/-- Of what is wrong with a text that is no key only the kind is told. -/
instance : PemKey PublicKey where
  toPem key := .ok (Bytes.ofText key.toPem)
  ofPem text := (PublicKey.ofPem text).mapError fun fault => ⟨fault.label, []⟩

/-- Something that a signer does. -/
abbrev Action (σ α : Type) := ExceptT Fault (StateM σ) α

structure Signer (σ : Type) (κ : Type := PublicKey) where
  /-- The algorithm for callers who choose none. -/
  defaultAlgorithm : Action σ CodeText
  /-- The algorithms that keys can be created for. -/
  supportedAlgorithms : Action σ (List CodeText)
  createKey : (ctx : CallContext) → (algorithm : String) → Action σ κ
  publicKey : (options : List SignerOption) → Action σ κ
  signMessage : (message : Bytes) → (options : List SignerOption) → Action σ Bytes
  /-- Fails when the signature does not belong to the message. -/
  verifySignature : (signature message : Bytes) → (options : List SignerOption) → Action σ Unit

namespace Action

variable {σ α : Type}

/-- Fails for the reason given. -/
def fail (fault : Fault) : Action σ α := throw fault

/-- An answer that needs no action. -/
def ofExcept {ε : Type} (fault : ε → Fault) : Except ε α → Action σ α
  | .ok a => pure a
  | .error e => throw (fault e)

/-- The action, unless the context is done already. -/
def under (ctx : CallContext) (now : Instant) (action : Action σ α) : Action σ α :=
  match ctx.err? now with
  | some reason => throw ⟨reason.label, reason.message⟩
  | none => action

end Action
end SignerPlugin
