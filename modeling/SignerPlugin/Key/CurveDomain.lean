import SignerPlugin.Crypto.Curve
import SignerPlugin.Key.Der

/-! How keys say which curve they are on: by its name, or by all its numbers. Numbers help
only where they are those of a curve that has a name. -/

namespace SignerPlugin.Key

open Crypto

/-- The names of curves. -/
def curveIdentifier : CurveName → Bytes
  | .p256 => [0x2a, 0x86, 0x48, 0xce, 0x3d, 0x03, 0x01, 0x07]
  | .p384 => [0x2b, 0x81, 0x04, 0x00, 0x22]

/-- The bytes that the curve's number b was made from. -/
def curveSeed : CurveName → Bytes
  | .p256 => Bytes.ofNat 20 0xc49d360886e704936a6678e1139d26b7819f7e90
  | .p384 => Bytes.ofNat 20 0xa335926aa319a27a1d00896a6773a4827acdac73

/-- Curves over the remainders of a prime. -/
def primeField : Bytes := [0x2a, 0x86, 0x48, 0xce, 0x3d, 0x01, 0x01]

/-- All the numbers of a curve as structured data, with or without the seed. -/
def writeNumbers (name : CurveName) (seeded : Bool) : Bytes :=
  let curve := name.curve
  Der.sequence [Der.integer 1,
    Der.sequence [Der.identifier primeField, Der.integer curve.prime],
    Der.sequence ([Der.octets (Bytes.ofNat curve.size (curve.prime - 3)),
      Der.octets (Bytes.ofNat curve.size curve.b)] ++
      if seeded then [Der.bits (curveSeed name)] else []),
    Der.octets (curve.pointBytes curve.base), Der.integer curve.order, Der.integer 1]

/-- What a key says of its curve. -/
inductive CurveDomain
  | named (identifier : Bytes)
  /-- The curve is known from elsewhere. -/
  | unnamed
  | numbers (written : Bytes)
  deriving DecidableEq, Repr

namespace CurveDomain

/-- Whether an element says over which numbers a curve is. -/
def isField (element : Der.Element) : Bool :=
  match element.parts? with
  | some [kind, parameter] =>
    kind.identifier?.any fun identifier => identifier ≠ primeField || parameter.nat?.isSome
  | _ => false

/-- Whether an element gives the two factors of a curve's equation, and maybe a seed. -/
def isEquation (element : Der.Element) : Bool :=
  match element.parts? with
  | some (a :: b :: seed) =>
    a.tag = Der.Tag.octetString && b.tag = Der.Tag.octetString && seed.length ≤
      1 && seed.all (·.bits?.isSome)
  | _ => false

/-- Whether elements have the form of all the numbers of a curve. -/
def areNumbers : List Der.Element → Bool
  | version :: field :: equation :: base :: order :: cofactor =>
    version.small?.isSome && isField field && isEquation equation && base.tag =
      Der.Tag.octetString &&
      order.nat?.isSome && cofactor.length ≤ 1 && cofactor.all (·.nat?.isSome)
  | _ => false

def ofElement? (element : Der.Element) : Option CurveDomain :=
  if element.tag = Der.Tag.identifier then element.identifier?.map .named
  else if element.isNull then some .unnamed
  else if element.parts?.any areNumbers then some (.numbers element.write)
  else none

/-- The curve that is meant, if it is one of those in use. -/
def curve? (domain : CurveDomain) : Option CurveName :=
  [CurveName.p256, .p384].find? fun name => match domain with
    | .named identifier => curveIdentifier name = identifier
    | .unnamed => false
    | .numbers written => written = writeNumbers name true || written = writeNumbers name false

end CurveDomain
end SignerPlugin.Key
