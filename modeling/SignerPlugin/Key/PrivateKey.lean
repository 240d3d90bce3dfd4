import SignerPlugin.Crypto.Ecdsa
import SignerPlugin.Crypto.Edwards
import SignerPlugin.Key.PublicKey

/-! Private keys, and their written forms. -/

namespace SignerPlugin

open Crypto

inductive PrivateKey
  /-- A factor of the base point of a curve. -/
  | ec (curve : CurveName) (secret : Nat)
  | ed25519 (seed : Bytes)
  | rsa (key : Rsa.PrivateKey)
  /-- A key that can agree on secrets but not sign. -/
  | x25519 (seed : Bytes)
  deriving DecidableEq, Repr

namespace PrivateKey

open Key

/-- The point of a key for agreement, in the coordinate (1 + y) / (1 - y) alone. -/
private def agreementPoint (seed : Bytes) : Bytes :=
  let factor := Edwards.clamp seed.toNatLittle
  let point := Edwards.times factor Edwards.base
  let u := (point.z + point.y) * invMod (subMod point.z point.y Edwards.prime) Edwards.prime
  Bytes.ofNatLittle 32 (u % Edwards.prime)

def publicKey : PrivateKey → PublicKey
  | .ec curve secret => match curve.curve.multiple secret with
    | .affine x y => .ec curve x y
    | .infinity => .ec curve 0 0
  | .ed25519 seed => .ed25519 (Edwards.publicOf seed)
  | .rsa key => .rsa key.publicKey
  | .x25519 seed => .x25519 (agreementPoint seed)

def kind (key : PrivateKey) : Kind :=
  match key with
  | .ec curve _ => .ec curve
  | .ed25519 _ => .ed25519
  | .rsa _ => .rsa
  | .x25519 _ => .x25519

/-- The numbers of an RSA key as structured data; the last three save work to those who sign. -/
def writeRsa (key : Rsa.PrivateKey) : Bytes :=
  let (first, second, inverse) := key.shortcuts
  Der.sequence [Der.integer 0, Der.integer key.modulus, Der.integer key.exponent,
    Der.integer key.secret, Der.integer key.first, Der.integer key.second,
    Der.integer first, Der.integer second, Der.integer inverse]

/-- The key itself, without its kind. -/
def body (key : PrivateKey) : Bytes :=
  match key with
  | .ec curve secret =>
    Der.sequence [Der.integer 1, Der.octets (Bytes.ofNat curve.curve.size secret),
      Der.write 0xa1 (Der.bits key.publicKey.body)]
  | .ed25519 seed => Der.octets seed
  | .x25519 seed => Der.octets seed
  | .rsa numbers => writeRsa numbers

/-- The key with its kind as structured data. -/
def write (key : PrivateKey) : Bytes :=
  Der.sequence [Der.integer 0, key.kind.write, Der.octets key.body]

/-- The text of a key. -/
def toPem (key : PrivateKey) : String := Pem.write "PRIVATE KEY" key.write

/-- The RSA key whose numbers bytes stand for. -/
def readRsa? (bytes : Bytes) : Option PrivateKey := do
  let numbers ← (← Der.parts? bytes).mapM Der.Element.nat?
  match numbers with
  | [0, modulus, exponent, secret, first, second, reduced, reduced', inverse] =>
    let key : Rsa.PrivateKey := ⟨modulus, exponent, secret, first, second⟩
    guard (key.fits ∧ key.shortcuts = (reduced, reduced', inverse))
    return .rsa key
  | _ => none

/-- A factor in its range whose point is the one written beside it, if there is one. -/
private def ecOf? (curve : CurveName) (secret : Nat) (point : Option Bytes) : Option PrivateKey :=
  let key := PrivateKey.ec curve secret
  if 0 < secret ∧ secret < curve.curve.order then
    match point with
    | none => some key
    | some bytes =>
      if PublicKey.ofBody? (.ec curve) bytes = some key.publicKey then some key else none
  else none

/-- A key of a curve whose parts are not yet looked at. -/
structure EcDraft where
  secret : Bytes
  domain : Option CurveDomain
  point : Option Bytes

/-- The draft that bytes stand for. Curve and point may be left out. -/
def EcDraft.read? (bytes : Bytes) : Option EcDraft := do
  let version :: secret :: rest ← Der.parts? bytes | none
  guard ((← version.nat?) = 1)
  let secret ← secret.contentIf? Der.Tag.octetString
  let (domain, rest) ← match rest with
    | part :: more =>
      if part.tag = Der.Tag.part 0 then do
        pure (some (← CurveDomain.ofElement? (← part.inside? (Der.Tag.part 0))), more)
      else pure (none, rest)
    | [] => pure (none, [])
  let point ← match rest with
    | [] => pure none
    | [part] => do pure (some (← (← part.inside? (Der.Tag.part 1)).bits?))
    | _ => none
  return ⟨secret, domain, point⟩

/-- A key of a curve, which may be named inside or from outside, or in the same way at both
places. -/
def readEc (outer : Option CurveDomain) (bytes : Bytes) : Except Fault PrivateKey := do
  let draft ← orMalformed (EcDraft.read? bytes)
  let domain ← orMalformed (outer.or draft.domain)
  if draft.domain.any (· ≠ domain) then throw .malformed
  match domain.curve? with
  | some curve =>
    if draft.secret.length ≠ curve.curve.size then throw .malformed
    orMalformed (ecOf? curve draft.secret.toNat draft.point)
  | none => throw .unsupported

private def seedOf? (body : Bytes) : Option Bytes :=
  (Der.content? Der.Tag.octetString body).filter fun seed => seed.length = 32

/-- The key of a scheme that bytes stand for. -/
def ofBody (scheme : Scheme) (body : Bytes) : Except Fault PrivateKey :=
  match scheme with
  | .ec domain => readEc (some domain) body
  | .ed25519 => orMalformed ((seedOf? body).map .ed25519)
  | .x25519 => orMalformed ((seedOf? body).map .x25519)
  | .rsa => orMalformed (readRsa? body)
  | .other => .error .unsupported

/-- Whether an element is an attribute: an identifier, and a set of anything. -/
def isAttribute (element : Der.Element) : Bool :=
  match element.parts? with
  | some [identifier, values] =>
    identifier.identifier?.isSome && ((values.contentIf? Der.Tag.set).bind Der.members?).isSome
  | _ => false

/-- Whether elements are nothing, or a set of attributes. -/
def areAttributes : List Der.Element → Bool
  | [] => true
  | [element] =>
    (element.contentIf? (Der.Tag.part 0)).any fun content =>
    (Der.members? content).any (·.all isAttribute)
  | _ => false

/-- The scheme and the body of a key that bytes stand for. -/
def parts? (bytes : Bytes) : Option (Scheme × Bytes) := do
  let version :: scheme :: body :: more ← Der.parts? bytes | none
  guard ((← version.nat?) = 0 ∧ areAttributes more)
  return (← Scheme.ofElement? scheme, ← body.contentIf? Der.Tag.octetString)

/-- The key with its kind that bytes stand for. -/
def read (bytes : Bytes) : Except Fault PrivateKey := do
  let (scheme, body) ← orMalformed (parts? bytes)
  ofBody scheme body

/-- Whether bytes have the form of an encrypted key: the method, and what it made. Without a
password nothing becomes of such a key. -/
def isEncrypted (bytes : Bytes) : Bool :=
  match Der.parts? bytes with
  | some [method, body] => (Method.ofElement? method).isSome && body.tag = Der.Tag.octetString
  | _ => false

/-- The labels under which private keys stand. -/
def labels : List String :=
  ["PRIVATE KEY", "ENCRYPTED PRIVATE KEY", "RSA PRIVATE KEY", "EC PRIVATE KEY", "DSA PRIVATE KEY"]

/-- What the head of a section says of encryption: nothing, or a fault. -/
def checkHead (found : Pem.Section) : Except Fault Unit :=
  match found.field? "Proc-Type" with
  | none => .ok ()
  | some "4,ENCRYPTED" =>
    if (found.field? "DEK-Info").any fun method =>
      method.contains ',' then .error .encrypted else .error .malformed
  | some _ => .error .malformed

/-- The key of a section. -/
def ofSection (found : Pem.Section) : Except Fault PrivateKey := do
  checkHead found
  if found.label = "PRIVATE KEY" then read found.data
  else if found.label = "RSA PRIVATE KEY" then orMalformed (readRsa? found.data)
  else if found.label = "EC PRIVATE KEY" then readEc none found.data
  else if found.label = "ENCRYPTED PRIVATE KEY" ∧ isEncrypted found.data then throw .encrypted
  else throw .malformed

/-- The key of a text: of its sections the first with a label of private keys counts. -/
def ofPem (text : Bytes) : Except Fault PrivateKey := do
  let sections ← orMalformed (Pem.all? text)
  ofSection (← orMalformed (sections.find? fun found => labels.contains found.label))

end PrivateKey
end SignerPlugin
