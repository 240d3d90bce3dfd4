import SignerPlugin.Entropy
import SignerPlugin.Key.PrivateKey

/-! The algorithms that keys can be made for. -/

namespace SignerPlugin

open Crypto

inductive KeyAlgorithm
  | ecdsaP256
  | ecdsaP384
  | ed25519
  | rsa2048
  deriving DecidableEq, Repr

namespace KeyAlgorithm

/-- All of them; the first is for those who choose none. -/
def all : List KeyAlgorithm := [.ecdsaP256, .ecdsaP384, .ed25519, .rsa2048]

def name : KeyAlgorithm → String
  | .ecdsaP256 => "ecdsa-p256-sha256"
  | .ecdsaP384 => "ecdsa-p384-sha384"
  | .ed25519 => "ed25519"
  | .rsa2048 => "rsa-2048-pkcs1v15-sha256"

def ofName? (name : String) : Option KeyAlgorithm :=
  all.find? fun algorithm => algorithm.name = name

@[simp]
theorem ofName?_name (algorithm : KeyAlgorithm) : ofName? algorithm.name = some algorithm := by
  cases algorithm <;> rfl

/-- The kind of its keys. -/
def kind : KeyAlgorithm → Key.Kind
  | .ecdsaP256 => .ec .p256
  | .ecdsaP384 => .ec .p384
  | .ed25519 => .ed25519
  | .rsa2048 => .rsa

/-- A factor of the base point of a curve. Eight bytes more than needed even out the remainder. -/
private def drawFactor (curve : Curve) (entropy : Entropy) : Nat × Entropy :=
  let (bytes, entropy) := entropy.draw (curve.size + 8)
  (1 + bytes.toNat % (curve.order - 1), entropy)

/-- The first number from one on that can be a factor of a modulus. -/
private def factorFrom : (fuel : Nat) → Nat → Nat
  | 0, n => n
  | fuel + 1, n =>
    let prime := nextPrime 10000 n
    if prime % 65537 = 1 then factorFrom fuel (prime + 2) else prime

/-- An odd number of 1024 bits of which the first two are set, so that the product of two such
has 2048. -/
private def drawStart (entropy : Entropy) : Nat × Entropy :=
  let (bytes, entropy) := entropy.draw 128
  (3 * Nat.pow 2 1022 + bytes.toNat % Nat.pow 2 1021 * 2 + 1, entropy)

/-- Makes a key. -/
def generate (algorithm : KeyAlgorithm) (entropy : Entropy) : PrivateKey × Entropy :=
  match algorithm with
  | .ecdsaP256 =>
    let (factor, entropy) := drawFactor CurveName.p256.curve entropy
    (.ec .p256 factor, entropy)
  | .ecdsaP384 =>
    let (factor, entropy) := drawFactor CurveName.p384.curve entropy
    (.ec .p384 factor, entropy)
  | .ed25519 =>
    let (seed, entropy) := entropy.draw 32
    (.ed25519 seed, entropy)
  | .rsa2048 =>
    let (start, entropy) := drawStart entropy
    let first := factorFrom 10 start
    let (start, entropy) := drawStart entropy
    let second := factorFrom 10 start
    let second := if second = first then factorFrom 10 (second + 2) else second
    (.rsa (.ofPrimes first second), entropy)

@[simp]
theorem kind_generate (algorithm : KeyAlgorithm) (entropy : Entropy) :
    (algorithm.generate entropy).1.kind = algorithm.kind := by
  cases algorithm <;> rfl

end KeyAlgorithm
end SignerPlugin
