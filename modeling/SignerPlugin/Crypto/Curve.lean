import SignerPlugin.Bytes
import SignerPlugin.Crypto.Modular

/-! The elliptic curves P-256 and P-384: points on y² = x³ - 3 x + b over the remainders of a
prime. -/

namespace SignerPlugin.Crypto

structure Curve where
  name : String
  prime : Nat
  b : Nat
  /-- The number of points, itself a prime. -/
  order : Nat
  baseX : Nat
  baseY : Nat
  /-- The length of a coordinate in bytes. -/
  size : Nat

/-- The curves in use. -/
inductive CurveName
  | p256
  | p384
  deriving DecidableEq, Repr

def p256 : Curve where
  name := "P-256"
  prime := 0xffffffff00000001000000000000000000000000ffffffffffffffffffffffff
  b := 0x5ac635d8aa3a93e7b3ebbd55769886bc651d06b0cc53b0f63bce3c3e27d2604b
  order := 0xffffffff00000000ffffffffffffffffbce6faada7179e84f3b9cac2fc632551
  baseX := 0x6b17d1f2e12c4247f8bce6e563a440f277037d812deb33a0f4a13945d898c296
  baseY := 0x4fe342e2fe1a7f9b8ee7eb4a7c0f9e162bce33576b315ececbb6406837bf51f5
  size := 32

def p384 : Curve where
  name := "P-384"
  prime := 0xfffffffffffffffffffffffffffffffffffffffffffffffffffffffffffffffeffffffff0000000000000000ffffffff
  b := 0xb3312fa7e23ee7e4988e056be3f82d19181d9c6efe8141120314088f5013875ac656398d8a2ed19d2a85c8edd3ec2aef
  order := 0xffffffffffffffffffffffffffffffffffffffffffffffffc7634d81f4372ddf581a0db248b0a77aecec196accc52973
  baseX := 0xaa87ca22be8b05378eb1c71ef320ad746e1d3b628ba79b9859f741e082542a385502f25dbf55296c3a545e3872760ab7
  baseY := 0x3617de4a96262c6f5d9e98bf9292dc29f8f41dbd289a147ce9da3113b5f0b8c00a60b1ce1d7e819d7a431d7c90ea0e5f
  size := 48

def CurveName.curve : CurveName → Curve
  | .p256 => Crypto.p256
  | .p384 => Crypto.p384

/-- A point: the one at infinity, or one with coordinates. -/
inductive Point
  | infinity
  | affine (x y : Nat)
  deriving DecidableEq, Repr

namespace Curve

def base (curve : Curve) : Point := .affine curve.baseX curve.baseY

/-- The right side of the curve's equation. -/
def cubic (curve : Curve) (x : Nat) : Nat :=
  subMod (x * x * x + curve.b) (3 * x) curve.prime

/-- Whether coordinates are remainders that fulfil the equation. -/
def contains (curve : Curve) (x y : Nat) : Bool :=
  x < curve.prime && y < curve.prime && y * y % curve.prime = curve.cubic x

/-- Coordinates x / z² and y / z³, which need no inverses to be added; z is zero at infinity. -/
structure Projective where
  x : Nat
  y : Nat
  z : Nat

def Projective.infinity : Projective := ⟨1, 1, 0⟩

def toProjective : Point → Projective
  | .infinity => .infinity
  | .affine x y => ⟨x, y, 1⟩

def toPoint (curve : Curve) (point : Projective) : Point :=
  if point.z = 0 then .infinity
  else
    let inverse := invMod point.z curve.prime
    let square := inverse * inverse % curve.prime
    .affine (point.x * square % curve.prime)
      (point.y * square % curve.prime * inverse % curve.prime)

/-- The point added to itself. -/
def double (curve : Curve) (point : Projective) : Projective :=
  if point.z = 0 ∨ point.y = 0 then .infinity
  else
    let p := curve.prime
    let yy := point.y * point.y % p
    let zz := point.z * point.z % p
    let s := 4 * point.x * yy % p
    let m := 3 * subMod point.x zz p * (point.x + zz) % p
    let x := subMod (m * m) (2 * s) p
    let y := subMod (m * subMod s x p) (8 * yy * yy) p
    ⟨x, y, 2 * point.y * point.z % p⟩

/-- The sum of two points. -/
def add (curve : Curve) (a b : Projective) : Projective :=
  if a.z = 0 then b
  else if b.z = 0 then a
  else
    let p := curve.prime
    let zzA := a.z * a.z % p
    let zzB := b.z * b.z % p
    let uA := a.x * zzB % p
    let uB := b.x * zzA % p
    let sA := a.y * zzB % p * b.z % p
    let sB := b.y * zzA % p * a.z % p
    if uA = uB then
      if sA = sB then curve.double a else .infinity
    else
      let h := subMod uB uA p
      let r := subMod sB sA p
      let hh := h * h % p
      let hhh := h * hh % p
      let v := uA * hh % p
      let x := subMod (r * r) (hhh + 2 * v) p
      let y := subMod (r * subMod v x p) (sA * hhh) p
      ⟨x, y, a.z * b.z % p * h % p⟩

/-- The point added to itself `n` times. -/
def times (curve : Curve) (n : Nat) (point : Projective) : Projective :=
  if n = 0 then .infinity
  else
    let twice := curve.double (curve.times (n / 2) point)
    if n % 2 = 1 then curve.add twice point else twice

/-- A multiple of the base point. -/
def multiple (curve : Curve) (n : Nat) : Point :=
  curve.toPoint (curve.times n (toProjective curve.base))

/-- The y that goes with x, even or odd as asked. -/
def liftX? (curve : Curve) (x : Nat) (odd : Bool) : Option Point := do
  guard (x < curve.prime)
  let root ← sqrtMod? (curve.cubic x) curve.prime
  return .affine x (if (root % 2 = 1) == odd then root else subMod 0 root curve.prime)

/-- The point that bytes stand for: both coordinates, or one and the parity of the other, or all
of it. -/
def pointOf? (curve : Curve) (bytes : Bytes) : Option Point :=
  match bytes with
  | form :: rest =>
    let x := Bytes.toNat (rest.take curve.size)
    let y := Bytes.toNat (rest.drop curve.size)
    if form = 2 ∨ form = 3 then
      if rest.length = curve.size then curve.liftX? x (form = 3) else none
    else if form = 4 ∨ form = 6 ∨ form = 7 then
      if rest.length = 2 * curve.size ∧ curve.contains x y ∧
          (form = 4 ∨ (y % 2 = 1) = (form = 7)) then some (.affine x y) else none
    else none
  | [] => none

/-- A point with coordinates as bytes. -/
def pointBytes (curve : Curve) : Point → Bytes
  | .infinity => [0]
  | .affine x y => 4 :: (Bytes.ofNat curve.size x ++ Bytes.ofNat curve.size y)

end Curve
end SignerPlugin.Crypto
