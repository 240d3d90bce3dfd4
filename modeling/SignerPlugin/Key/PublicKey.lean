import SignerPlugin.Crypto.Rsa
import SignerPlugin.Key.Kind
import SignerPlugin.Key.Pem

/-! Public keys, and their written form: the kind of the key and its numbers as structured
data, in a section of a text. -/

namespace SignerPlugin

open Crypto

inductive PublicKey
  /-- A point of a curve. -/
  | ec (curve : CurveName) (x y : Nat)
  | ed25519 (point : Bytes)
  | rsa (key : Rsa.PublicKey)
  /-- A key that can agree on secrets but not sign. -/
  | x25519 (point : Bytes)
  deriving DecidableEq, Repr

namespace PublicKey

open Key

/-- The numbers of an RSA key as structured data. -/
def writeRsa (key : Rsa.PublicKey) : Bytes :=
  Der.sequence [Der.integer key.modulus, Der.integer key.exponent]

def readRsa? (bytes : Bytes) : Option PublicKey := do
  match ← Der.parts? bytes with
  | [modulus, exponent] =>
    let key : Rsa.PublicKey := ⟨← modulus.nat?, ← exponent.nat?⟩
    guard key.isUsable
    return .rsa key
  | _ => none

def kind : PublicKey → Kind
  | .ec curve _ _ => .ec curve
  | .ed25519 _ => .ed25519
  | .x25519 _ => .x25519
  | .rsa _ => .rsa

/-- The key itself, without its kind. -/
def body : PublicKey → Bytes
  | .ec curve x y => curve.curve.pointBytes (.affine x y)
  | .ed25519 point => point
  | .x25519 point => point
  | .rsa key => writeRsa key

/-- The key of a kind that bytes stand for. A point must lie on its curve. -/
def ofBody? (kind : Kind) (body : Bytes) : Option PublicKey :=
  match kind with
  | .ec curve => match curve.curve.pointOf? body with
    | some (.affine x y) => some (.ec curve x y)
    | _ => none
  | .ed25519 => if body.length = 32 then some (.ed25519 body) else none
  | .x25519 => if body.length = 32 then some (.x25519 body) else none
  | .rsa => readRsa? body

/-- The key with its kind as structured data. -/
def write (key : PublicKey) : Bytes := Der.sequence [key.kind.write, Der.bits key.body]

/-- The key with its kind that bytes stand for. -/
def read (bytes : Bytes) : Except Fault PublicKey :=
  match Der.parts? bytes with
  | some [scheme, body] => do
    let scheme ← orMalformed (Scheme.ofElement? scheme)
    let body ← orMalformed body.bits?
    orMalformed (ofBody? (← scheme.kind) body)
  | _ => .error .malformed

def isRsa : PublicKey → Bool
  | .rsa _ => true
  | _ => false

/-- The text of a key. -/
def toPem (key : PublicKey) : String := Pem.write "PUBLIC KEY" key.write

/-- The key of a text: its first section holds a key with its kind, or the numbers of an RSA
key. These have a label of their own, and under that the kind must be the right one. -/
def ofPem (text : Bytes) : Except Fault PublicKey := do
  let found ← orMalformed (Pem.first? text)
  if found.label = "PUBLIC KEY" then
    match read found.data, readRsa? found.data with
    | .error _, some key => return key
    | result, _ => result
  else if found.label = "RSA PUBLIC KEY" then
    orMalformed ((readRsa? found.data).or ((read found.data).toOption.filter isRsa))
  else throw .malformed

end PublicKey
end SignerPlugin
