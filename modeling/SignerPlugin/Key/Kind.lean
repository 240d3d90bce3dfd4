import SignerPlugin.Key.Fault
import SignerPlugin.Key.Method

/-! Kinds of keys, and how they stand beside keys as structured data. -/

namespace SignerPlugin.Key

open Crypto

/-- A kind of key, with the curve where it takes one. -/
inductive Kind
  | ec (curve : CurveName)
  | ed25519
  | x25519
  | rsa
  deriving DecidableEq, Repr

/-- A kind of key as structured data. -/
def Kind.write : Kind → Bytes
  | .ec curve => Der.sequence [Der.identifier Method.ec, Der.identifier (curveIdentifier curve)]
  | .ed25519 => Der.sequence [Der.identifier Method.ed25519]
  | .x25519 => Der.sequence [Der.identifier Method.x25519]
  | .rsa => Der.sequence [Der.identifier Method.rsa, Der.null]

/-- What structured data says of the kind of a key. -/
inductive Scheme
  | ec (domain : CurveDomain)
  | ed25519
  | x25519
  | rsa
  | other
  deriving DecidableEq, Repr

namespace Scheme

/-- What a method says. Keys for salted signatures are like all others of RSA. -/
def ofMethod (method : Method) : Scheme :=
  if method.identifier = Method.ec then
    match method.parameter.bind CurveDomain.ofElement? with
    | some domain => .ec domain
    | none => .other
  else if method.identifier = Method.ed25519 then .ed25519
  else if method.identifier = Method.x25519 then .x25519
  else if method.identifier = Method.rsa ∨ method.identifier = Method.saltedRsa then .rsa
  else .other

/-- What an element says, if it has the form for that. -/
def ofElement? (element : Der.Element) : Option Scheme := (Method.ofElement? element).map ofMethod

/-- The kind that is meant. -/
def kind : Scheme → Except Fault Kind
  | .ec domain => match domain.curve? with
    | some curve => .ok (.ec curve)
    | none => .error .unsupported
  | .ed25519 => .ok .ed25519
  | .x25519 => .ok .x25519
  | .rsa => .ok .rsa
  | .other => .error .unsupported

end Scheme

/-- What is there, or else the fault that nothing is. -/
def orMalformed {α : Type} : Option α → Except Fault α
  | some a => .ok a
  | none => .error .malformed

end SignerPlugin.Key
