import SignerPlugin.Digest.Sha2
import SignerPlugin.Crypto.Modular

/-! Signatures on the twisted Edwards curve over the remainders of 2 ^ 255 - 19. A key is the
hash of a seed; a signature depends on the key and the message alone. -/

namespace SignerPlugin.Crypto.Edwards

def prime : Nat := Nat.pow 2 255 - 19

/-- The number of points in the subgroup of the base point. -/
def order : Nat := Nat.pow 2 252 + 27742317777372353535851937790883648493

/-- The coefficient of the curve - x² + y² = 1 + d x² y². -/
def coefficient : Nat := subMod 0 (121665 * invMod 121666 prime) prime

/-- A point in coordinates x / z and y / z, with t = x y / z. -/
structure Point where
  x : Nat
  y : Nat
  z : Nat
  t : Nat

def neutral : Point := ⟨0, 1, 1, 0⟩

def add (p q : Point) : Point :=
  let a := subMod p.y p.x prime * subMod q.y q.x prime % prime
  let b := (p.y + p.x) * (q.y + q.x) % prime
  let c := 2 * p.t * q.t % prime * coefficient % prime
  let d := 2 * p.z * q.z % prime
  let e := subMod b a prime
  let f := subMod d c prime
  let g := (d + c) % prime
  let h := (b + a) % prime
  ⟨e * f % prime, g * h % prime, f * g % prime, e * h % prime⟩

/-- The point added to itself `n` times. -/
def times (n : Nat) (point : Point) : Point :=
  if n = 0 then neutral
  else
    let half := times (n / 2) point
    let twice := add half half
    if n % 2 = 1 then add twice point else twice

/-- The x that goes with y, even or odd as asked. -/
def xOf? (y : Nat) (odd : Bool) : Option Nat :=
  let yy := y * y % prime
  let u := subMod yy 1 prime
  let v := (coefficient * yy + 1) % prime
  let square := u * invMod v prime % prime
  let first := powMod square ((prime + 3) / 8) prime
  let root := if first * first % prime = square then first
    else first * powMod 2 ((prime - 1) / 4) prime % prime
  if root * root % prime ≠ square then none
  else if root = 0 ∧ odd then none
  else some (if (root % 2 = 1) == odd then root else subMod 0 root prime)

/-- The point that 32 bytes stand for. -/
def decode? (bytes : Bytes) : Option Point :=
  let n := bytes.toNatLittle
  let y := n % Nat.pow 2 255
  if prime ≤ y then none
  else (xOf? y (n / Nat.pow 2 255 = 1)).map fun x => ⟨x, y, 1, x * y % prime⟩

/-- A point as 32 bytes: y, with the parity of x as its highest bit. -/
def encode (point : Point) : Bytes :=
  let inverse := invMod point.z prime
  let x := point.x * inverse % prime
  let y := point.y * inverse % prime
  Bytes.ofNatLittle 32 (y + x % 2 * Nat.pow 2 255)

/-- The base point: y is four fifths and x is even. -/
def base : Point := (decode? (Bytes.ofNatLittle 32 (4 * invMod 5 prime % prime))).getD neutral

/-- The factor that a number gives: bit 254 is set, the bits above it and the lowest three are
not. -/
def clamp (n : Nat) : Nat := Nat.pow 2 254 + n % Nat.pow 2 254 / 8 * 8

/-- The secret factor of a seed, and the rest of the seed's hash. -/
def expand (seed : Bytes) : Nat × Bytes :=
  let hash := Digest.Sha2.digest512 seed
  let n := Bytes.toNatLittle (hash.take 32)
  (clamp n, hash.drop 32)

def publicOf (seed : Bytes) : Bytes := encode (times (expand seed).1 base)

private def challenge (parts : List Bytes) : Nat :=
  Bytes.toNatLittle (Digest.Sha2.digest512 parts.flatten) % order

def sign (seed message : Bytes) : Bytes :=
  let (secret, salt) := expand seed
  let publicKey := publicOf seed
  let nonce := challenge [salt, message]
  let commitment := encode (times nonce base)
  let response := (nonce + challenge [commitment, publicKey, message] * secret) % order
  commitment ++ Bytes.ofNatLittle 32 response

/-- Whether a signature belongs to a message: it is made up of a point and a factor such that
the point is the factor times the base, less the challenge times the public key. -/
def verify (publicKey message signature : Bytes) : Bool :=
  let commitment := signature.take 32
  let response := Bytes.toNatLittle (signature.drop 32)
  if signature.length ≠ 64 ∨ order ≤ response then false
  else match decode? publicKey with
    | none => false
    | some point =>
      let minus : Point := ⟨subMod 0 point.x prime, point.y, point.z, subMod 0 point.t prime⟩
      let factor := challenge [commitment, publicKey, message]
      encode (add (times response base) (times factor minus)) == commitment

end SignerPlugin.Crypto.Edwards
