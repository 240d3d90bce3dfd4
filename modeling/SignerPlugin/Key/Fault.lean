/-! Why a text holds no key that can be used. -/

namespace SignerPlugin.Key

inductive Fault
  /-- There is no key, or it is damaged. -/
  | malformed
  /-- A key of a kind, or on a curve, that is not known. -/
  | unsupported
  /-- A private key that is encrypted; there is no password. -/
  | encrypted
  deriving DecidableEq, Repr

/-- The word for the kind of fault. -/
def Fault.label : Fault → String
  | .malformed => "ValueError"
  | .unsupported => "UnsupportedAlgorithm"
  | .encrypted => "TypeError"

end SignerPlugin.Key
