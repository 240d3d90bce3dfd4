import SignerPlugin.Options

/-! A plain signer made from one that takes options: it is bound to a context and a hash
function, and signs digests. -/

namespace SignerPlugin

structure CryptoSigner where
  context : CallContext
  hash : HashFunc
  deriving DecidableEq, Repr

namespace CryptoSigner

/-- Makes a plain signer, unless the context is done. -/
def make (ctx : CallContext) (now : Instant) (hash : HashFunc) : Except ContextError CryptoSigner :=
  match ctx.err? now with
  | some reason => .error reason
  | none => .ok ⟨ctx, hash⟩

/-- The options for asking the public key. -/
def keyOptions {θ : Type} (signer : CryptoSigner) : List (SignerOption θ) :=
  [.context signer.context]

/-- The options for signing a digest; the hash function may be chosen anew. -/
def digestOptions {θ : Type} (signer : CryptoSigner) (digest : Bytes)
    (chosen : Option HashFunc.Selector) :
    Except HashFunc.Fault (List (SignerOption θ)) := do
  let hash ← match chosen with
    | some selector => HashFunc.select selector
    | none => .ok signer.hash
  return [.context signer.context, .digest digest, .hashFunc hash]

/-- The answer to those who cannot fail: nothing in place of an error, which goes to the list
of errors seen so far instead. -/
def observe {ε α : Type} (errors : List ε) : Except ε α → Option α × List ε
  | .ok answer => (some answer, errors)
  | .error error => (none, errors ++ [error])

end CryptoSigner
end SignerPlugin
