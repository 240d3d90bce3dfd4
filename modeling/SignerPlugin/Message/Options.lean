import SignerPlugin.Schema.Scalar

/-! The option bags of messages. A member that is absent means that the callee's own default
holds. What is written and read has strings for its texts. -/

namespace SignerPlugin.Message

open Schema

/-- Settings of a call as such. -/
structure RpcOptions (θ : Type := String) where
  ctxDeadline : Option Time.Timestamp := none
  keyVersion : Option θ := none
  remoteVerification : Option Bool := none
  deriving DecidableEq, BEq, Repr

/-- Settings of a call that takes a message. -/
structure MessageOptions where
  digest : Option Bytes := none
  hashFunc : Option HashFunc := none
  deriving DecidableEq, BEq, Repr

/-- Settings for asking a public key. -/
abbrev PublicKeyOptions (θ : Type := String) := RpcOptions θ

/-- Settings for making a signature. -/
structure SignOptions (θ : Type := String) extends MessageOptions, RpcOptions θ
  deriving DecidableEq, BEq, Repr

/-- Settings for checking a signature. -/
abbrev VerifyOptions (θ : Type := String) := SignOptions θ

variable {ρ : Type}

def RpcOptions.members (part : ρ → RpcOptions) : Members ρ RpcOptions :=
  .and (.and (.and (.none RpcOptions.mk)
    (.optional ⟨"ctxDeadline", "ctx_deadline"⟩ (fun r => (part r).ctxDeadline) .time))
    (.optional ⟨"keyVersion", "key_version"⟩ (fun r => (part r).keyVersion) .text))
    (.optional ⟨"remoteVerification", "remote_verification"⟩
      (fun r => (part r).remoteVerification) .bool)

def MessageOptions.members (part : ρ → MessageOptions) : Members ρ MessageOptions :=
  .and (.and (.none MessageOptions.mk)
    (.optional (.same "digest") (fun r => (part r).digest) .bytes))
    (.optional ⟨"hashFunc", "hash_func"⟩ (fun r => (part r).hashFunc) .hash)

def RpcOptions.codec : Codec RpcOptions := .record (members id)

def MessageOptions.codec : Codec MessageOptions := .record (members id)

def SignOptions.codec : Codec SignOptions :=
  .record (.and (.and (.none SignOptions.mk)
    (MessageOptions.members SignOptions.toMessageOptions))
    (RpcOptions.members SignOptions.toRpcOptions))

section Texts

variable {θ θ' : Type} {m : Type → Type} [Monad m]

/-- The same settings in texts of another kind. -/
def RpcOptions.mapTexts (f : θ → m θ') (options : RpcOptions θ) : m (RpcOptions θ') := do
  return { options with keyVersion := ← options.keyVersion.mapM f }

def SignOptions.mapTexts (f : θ → m θ') (options : SignOptions θ) : m (SignOptions θ') := do
  return {
    toMessageOptions := options.toMessageOptions
    toRpcOptions := ← options.toRpcOptions.mapTexts f }

end Texts
end SignerPlugin.Message
