import SignerPlugin.Message.Request

/-! Replies: the result of a method, or the message of its failure. A message that is not
empty means failure, whatever results stand beside it. -/

namespace SignerPlugin.Message

open Schema

structure DefaultAlgorithmResp (θ : Type := String) where
  defaultAlgorithm : θ
  deriving DecidableEq, BEq, Repr

structure SupportedAlgorithmsResp (θ : Type := String) where
  supportedAlgorithms : List θ
  deriving DecidableEq, BEq, Repr

/-- A public key in PEM form. -/
structure KeyResp where
  publicKeyPem : Bytes
  deriving DecidableEq, BEq, Repr

structure SignMessageResp where
  signature : Bytes
  deriving DecidableEq, BEq, Repr

/-- A reply. The results of several methods may stand side by side. -/
structure PluginResp (θ : Type := String) where
  errorMessage : Option θ := none
  defaultAlgorithm : Option (DefaultAlgorithmResp θ) := none
  supportedAlgorithms : Option (SupportedAlgorithmsResp θ) := none
  createKey : Option KeyResp := none
  publicKey : Option KeyResp := none
  signMessage : Option SignMessageResp := none
  verifySignature : Option Blank := none
  deriving DecidableEq, BEq, Repr

namespace DefaultAlgorithmResp

def codec : Codec DefaultAlgorithmResp :=
  .record (.and (.none DefaultAlgorithmResp.mk)
    (.required ⟨"defaultAlgorithm", "default_algorithm"⟩ defaultAlgorithm .text))

end DefaultAlgorithmResp

namespace SupportedAlgorithmsResp

def codec : Codec SupportedAlgorithmsResp :=
  .record (.and (.none SupportedAlgorithmsResp.mk)
    (.required ⟨"supportedAlgorithms", "supported_algorithms"⟩ supportedAlgorithms (.list .text)))

end SupportedAlgorithmsResp

namespace KeyResp

def codec : Codec KeyResp :=
  .record (.and (.none KeyResp.mk)
    (.required ⟨"publicKeyPEM", "public_key_pem"⟩ publicKeyPem .bytes))

end KeyResp

namespace SignMessageResp

def codec : Codec SignMessageResp :=
  .record (.and (.none SignMessageResp.mk)
    (.required (.same "signature") signature .bytes))

end SignMessageResp

namespace PluginResp

/-- The member that holds the message of a failure. -/
def errorMember : MemberName := ⟨"errorMessage", "error_message"⟩

def codec : Codec PluginResp :=
  .record (.and (.and (.and (.and (.and (.and (.and (.none PluginResp.mk)
    (.optional errorMember errorMessage .text))
    (.optional Method.defaultAlgorithm.member defaultAlgorithm DefaultAlgorithmResp.codec))
    (.optional Method.supportedAlgorithms.member supportedAlgorithms SupportedAlgorithmsResp.codec))
    (.optional Method.createKey.member createKey KeyResp.codec))
    (.optional Method.publicKey.member publicKey KeyResp.codec))
    (.optional Method.signMessage.member signMessage SignMessageResp.codec))
    (.optional Method.verifySignature.member verifySignature Blank.codec))

section Texts

variable {θ θ' : Type} {m : Type → Type} [Monad m]

/-- Whether the reply has a result for a method. -/
def has (reply : PluginResp θ) : Method → Bool
  | .defaultAlgorithm => reply.defaultAlgorithm.isSome
  | .supportedAlgorithms => reply.supportedAlgorithms.isSome
  | .createKey => reply.createKey.isSome
  | .publicKey => reply.publicKey.isSome
  | .signMessage => reply.signMessage.isSome
  | .verifySignature => reply.verifySignature.isSome

/-- A reply that says only why a call failed. -/
def failure (message : θ) : PluginResp θ := { errorMessage := some message }

/-- The same reply in texts of another kind. -/
def mapTexts (f : θ → m θ') (reply : PluginResp θ) : m (PluginResp θ') := do
  return {
    errorMessage := ← reply.errorMessage.mapM f
    defaultAlgorithm := ← reply.defaultAlgorithm.mapM fun result =>
      return ⟨← f result.defaultAlgorithm⟩
    supportedAlgorithms := ← reply.supportedAlgorithms.mapM fun result =>
      return ⟨← result.supportedAlgorithms.mapM f⟩
    createKey := reply.createKey
    publicKey := reply.publicKey
    signMessage := reply.signMessage
    verifySignature := reply.verifySignature }

/-- The reply that is written. -/
def written [Text.Writable θ] (reply : PluginResp θ) : Except Text.Unwritable PluginResp :=
  reply.mapTexts Text.Writable.written

/-- The reply of which another one is written. -/
def ofWritten [Text.Writable θ] (reply : PluginResp) : PluginResp θ :=
  reply.mapTexts (m := Id) fun text => (Text.Writable.ofString text : θ)

end Texts

end PluginResp

/-- A reply of which only the message of a failure is looked at. -/
structure ErrorReply where
  errorMessage : Option String := none
  deriving DecidableEq, BEq, Repr

namespace ErrorReply

def codec : Codec ErrorReply :=
  .record (.and (.none ErrorReply.mk) (.optional PluginResp.errorMember errorMessage .text))

end ErrorReply
end SignerPlugin.Message
