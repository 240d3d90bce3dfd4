import SignerPlugin.Key.Algorithm

/-! What a keeper of keys must be able to do with them, as one value, so that what is said of
the keeper does not hang on how keys work. -/

namespace SignerPlugin

open Crypto

/-- The operations on keys. Digests are signed with keys that take them, and whole messages with the
others. -/
structure KeySuite where
  generate : KeyAlgorithm → Entropy → PrivateKey × Entropy
  write : PrivateKey → Bytes
  read : Bytes → Except Key.Fault PrivateKey
  publicOf : PrivateKey → PublicKey
  /-- The signature of a digest; nothing when the key has no room for it. -/
  signDigest : PrivateKey → HashFunc → (digest : Bytes) → Option Bytes
  verifyDigest : PublicKey → HashFunc → (digest signature : Bytes) → Bool
  signMessage : PrivateKey → (message : Bytes) → Bytes
  verifyMessage : PublicKey → (message signature : Bytes) → Bool

namespace KeySuite

/-- Elliptic curves and RSA sign digests, and Edwards curves messages. -/
def standard : KeySuite where
  generate := KeyAlgorithm.generate
  write key := Bytes.ofText key.toPem
  read := PrivateKey.ofPem
  publicOf := PrivateKey.publicKey
  signDigest key hash digest :=
    match key with
    | .ec curve secret => some (Ecdsa.sign curve.curve secret digest)
    | .rsa key => Rsa.sign? key hash digest
    | _ => none
  verifyDigest key hash digest signature :=
    match key with
    | .ec curve x y => Ecdsa.verify curve.curve x y digest signature
    | .rsa key => Rsa.verify key hash digest signature
    | _ => false
  signMessage key message :=
    match key with
    | .ed25519 seed => Edwards.sign seed message
    | _ => []
  verifyMessage key message signature :=
    match key with
    | .ed25519 point => Edwards.verify point message signature
    | _ => false

end KeySuite
end SignerPlugin
