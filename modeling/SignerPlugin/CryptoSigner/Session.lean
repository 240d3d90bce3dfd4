import SignerPlugin.Client
import SignerPlugin.CryptoSigner

/-! A plain signer of a client in use. Its steps share a context, which others may cancel, and
a list of the errors that callers were spared. -/

namespace SignerPlugin.CryptoSigner

/-- How signing fails. -/
inductive SignError (θ : Type := String)
  /-- The hash function that was chosen is none. -/
  | refused (fault : HashFunc.Fault)
  | failed (error : ClientError θ)
  deriving DecidableEq, Repr

/-- What happens to a plain signer. The clock may be set in any way meanwhile. -/
inductive Step
  | publicKey
  | sign (digest : Bytes) (chosen : Option HashFunc.Selector)
  | cancel
  | pass (micros : Int)

/-- What is answered. -/
inductive Reply (κ : Type := PublicKey) (θ : Type := String)
  | key (found : Option κ)
  | signature (result : Except (SignError θ) Bytes)
  | nothing

/-- A plain signer at an instant. The errors in place of public keys are told of only if
somebody listens. -/
structure Session (θ : Type := String) where
  signer : CryptoSigner
  listens : Bool
  errors : List (ClientError θ) := []
  now : Instant

namespace Session

open Command
open Invocation (Outcome)

variable {τ α κ θ : Type}

/-- The session as a call leaves it. -/
def leave (session : Session θ) (outcome : Outcome α) : Session θ :=
  { session with signer.context := outcome.context, now := outcome.now }

def step [PemKey κ] [Text.Writable θ] (client : Client θ) (launch : Launch τ)
    (session : Session θ) :
    Step → StateM τ (Reply κ θ × Session θ)
  | .publicKey => do
    let outcome ← client.publicKey launch session.now session.signer.keyOptions
    let (found, errors) := observe session.errors outcome.result
    return (.key found, { session.leave outcome with
      errors := if session.listens then errors else session.errors })
  | .sign digest chosen => match session.signer.digestOptions digest chosen with
    | .error fault => return (.signature (.error (.refused fault)), session)
    | .ok options => do
      let outcome ← client.signMessage launch session.now [] options
      return (.signature (outcome.result.mapError .failed), session.leave outcome)
  | .cancel => return (.nothing, { session with signer.context := session.signer.context.cancel })
  | .pass micros => return (.nothing, { session with now := session.now + micros })

end Session
end SignerPlugin.CryptoSigner
