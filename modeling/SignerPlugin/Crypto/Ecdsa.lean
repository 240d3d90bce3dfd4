import SignerPlugin.Crypto.Curve
import SignerPlugin.Digest
import SignerPlugin.Key.Der

/-! Signatures with elliptic curves: two numbers, written as a sequence. The nonce of a
signature comes from the key and the digest, so that no two digests share one. -/

namespace SignerPlugin.Crypto.Ecdsa

/-- The leading bits of bytes, as many as the order of the curve has. -/
def leading (curve : Curve) (bytes : Bytes) : Nat :=
  bytes.toNat >>> (8 * bytes.length - (Nat.log2 curve.order + 1))

/-- Draws numbers from a chain of authentication codes until one is a nonce; `fuel` bounds the
draws. -/
private def draw (curve : Curve) : (fuel : Nat) → (key value : Bytes) → Nat
  | 0, _, _ => 1
  | fuel + 1, key, value =>
    let next := HashFunc.sha384.authenticate key value
    let candidate := leading curve (next.take curve.size)
    if 0 < candidate ∧ candidate < curve.order then candidate
    else
      let key := HashFunc.sha384.authenticate key (next ++ [0])
      draw curve fuel key (HashFunc.sha384.authenticate key next)

/-- The nonce for a key and a number to be signed. -/
def nonce (curve : Curve) (secret number : Nat) : Nat :=
  let seed := Bytes.ofNat curve.size secret ++ Bytes.ofNat curve.size (number % curve.order)
  let start := List.replicate 48 1
  let key := HashFunc.sha384.authenticate (List.replicate 48 0) (start ++ 0 :: seed)
  let value := HashFunc.sha384.authenticate key start
  let key := HashFunc.sha384.authenticate key (value ++ 1 :: seed)
  draw curve 64 key (HashFunc.sha384.authenticate key value)

/-- The signature of a digest. -/
def sign (curve : Curve) (secret : Nat) (digest : Bytes) : Bytes :=
  let number := leading curve digest
  let k := nonce curve secret number
  let r := match curve.multiple k with
    | .affine x _ => x % curve.order
    | .infinity => 0
  let s := invMod k curve.order * (number + r * secret) % curve.order
  Der.sequence [Der.integer r, Der.integer s]

/-- The two numbers of a signature, if it is written the one way. -/
def numbers? (signature : Bytes) : Option (Nat × Nat) :=
  match Der.parts? signature with
  | some [r, s] => do return (← r.nat?, ← s.nat?)
  | _ => none

def verify (curve : Curve) (x y : Nat) (digest signature : Bytes) : Bool :=
  match numbers? signature with
  | none => false
  | some (r, s) =>
    if r = 0 ∨ curve.order ≤ r ∨ s = 0 ∨ curve.order ≤ s then false
    else
      let inverse := invMod s curve.order
      let number := leading curve digest
      let point := curve.add
        (curve.times (number * inverse % curve.order) (Curve.toProjective curve.base))
        (curve.times (r * inverse % curve.order) (Curve.toProjective (.affine x y)))
      match curve.toPoint point with
      | .affine x _ => x % curve.order = r
      | .infinity => false

end SignerPlugin.Crypto.Ecdsa
