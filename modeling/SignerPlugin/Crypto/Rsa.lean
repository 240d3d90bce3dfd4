import SignerPlugin.Crypto.Modular
import SignerPlugin.Digest
import SignerPlugin.Key.Der

/-! RSA keys, and signatures that fill the modulus up with a fixed pattern before the digest. -/

namespace SignerPlugin.Crypto.Rsa

structure PublicKey where
  modulus : Nat
  exponent : Nat
  deriving DecidableEq, Repr

structure PrivateKey where
  modulus : Nat
  exponent : Nat
  secret : Nat
  first : Nat
  second : Nat
  deriving DecidableEq, Repr

/-- Whether the numbers can be those of a key. -/
def PublicKey.isUsable (key : PublicKey) : Bool :=
  3 ≤ key.modulus && 3 ≤ key.exponent && key.exponent < key.modulus && key.exponent % 2 = 1

def PrivateKey.publicKey (key : PrivateKey) : PublicKey := ⟨key.modulus, key.exponent⟩

/-- The secret reduced for each of the two factors, and the inverse of the second factor for
the first. These numbers save work to those who sign. -/
def PrivateKey.shortcuts (key : PrivateKey) : Nat × Nat × Nat :=
  (key.secret % (key.first - 1), key.secret % (key.second - 1), invMod key.second key.first)

/-- Whether the numbers of a key belong together: its two factors are different odd primes,
and what the secret does the exponent undoes. -/
def PrivateKey.fits (key : PrivateKey) : Bool :=
  key.exponent % 2 = 1 && key.exponent ≠ 1 && key.first * key.second = key.modulus &&
    key.first ≠ key.second && key.first % 2 = 1 && key.second % 2 = 1 &&
    seemsPrime key.first && seemsPrime key.second &&
    key.exponent * key.secret % Nat.lcm (key.first - 1) (key.second - 1) = 1

/-- The key of two primes. -/
def PrivateKey.ofPrimes (first second : Nat) : PrivateKey :=
  let exponent := 65537
  ⟨first * second, exponent, invMod exponent (Nat.lcm (first - 1) (second - 1)), first, second⟩

def bits (modulus : Nat) : Nat := if modulus = 0 then 0 else Nat.log2 modulus + 1

/-- The length of the modulus in bytes. -/
def size (modulus : Nat) : Nat := (bits modulus + 7) / 8

/-- The identifier of a hash function. -/
def identifier : HashFunc → Bytes
  | .md5 => [0x2a, 0x86, 0x48, 0x86, 0xf7, 0x0d, 0x02, 0x05]
  | .sha1 => [0x2b, 0x0e, 0x03, 0x02, 0x1a]
  | .sha256 => [0x60, 0x86, 0x48, 0x01, 0x65, 0x03, 0x04, 0x02, 0x01]
  | .sha384 => [0x60, 0x86, 0x48, 0x01, 0x65, 0x03, 0x04, 0x02, 0x02]
  | .sha512 => [0x60, 0x86, 0x48, 0x01, 0x65, 0x03, 0x04, 0x02, 0x03]
  | .sha224 => [0x60, 0x86, 0x48, 0x01, 0x65, 0x03, 0x04, 0x02, 0x04]
  | .sha512_224 => [0x60, 0x86, 0x48, 0x01, 0x65, 0x03, 0x04, 0x02, 0x05]
  | .sha512_256 => [0x60, 0x86, 0x48, 0x01, 0x65, 0x03, 0x04, 0x02, 0x06]
  | .sha3_224 => [0x60, 0x86, 0x48, 0x01, 0x65, 0x03, 0x04, 0x02, 0x07]
  | .sha3_256 => [0x60, 0x86, 0x48, 0x01, 0x65, 0x03, 0x04, 0x02, 0x08]
  | .sha3_384 => [0x60, 0x86, 0x48, 0x01, 0x65, 0x03, 0x04, 0x02, 0x09]
  | .sha3_512 => [0x60, 0x86, 0x48, 0x01, 0x65, 0x03, 0x04, 0x02, 0x0a]

/-- A digest with the name of its hash function, filled up to `size` bytes, if there is room. -/
def encode? (size : Nat) (hash : HashFunc) (digest : Bytes) : Option Bytes :=
  let info := Der.sequence [Der.sequence [Der.identifier (identifier hash), Der.null],
    Der.octets digest]
  if size < info.length + 11 then none
  else some (0 :: 1 :: (List.replicate (size - info.length - 3) 0xff ++ 0 :: info))

/-- The signature of a digest; none when the key is too small for it. -/
def sign? (key : PrivateKey) (hash : HashFunc) (digest : Bytes) : Option Bytes :=
  (encode? (size key.modulus) hash digest).map fun message =>
    Bytes.ofNat (size key.modulus) (powMod message.toNat key.secret key.modulus)

/-- Whether signatures are looked at with a key at all. Numbers that are too big would take
too long. -/
def PublicKey.isHandy (key : PublicKey) : Bool :=
  key.exponent < key.modulus && bits key.modulus ≤ 16384 &&
    (bits key.modulus ≤ 3072 || bits key.exponent ≤ 64)

def verify (key : PublicKey) (hash : HashFunc) (digest signature : Bytes) : Bool :=
  let length := size key.modulus
  key.isHandy && signature.length = length && signature.toNat < key.modulus &&
    encode? length hash digest =
      some (Bytes.ofNat length (powMod signature.toNat key.exponent key.modulus))

end SignerPlugin.Crypto.Rsa
