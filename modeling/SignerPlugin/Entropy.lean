import SignerPlugin.Digest

/-! Random bytes: a seed that no one else knows, stretched as far as needed. -/

namespace SignerPlugin

structure Entropy where
  seed : Bytes
  /-- How many blocks have been drawn. -/
  drawn : Nat := 0
  deriving DecidableEq, Repr

namespace Entropy

/-- So many blocks from one on. -/
def blocks (seed : Bytes) (start : Nat) : (count : Nat) → Bytes
  | 0 => []
  | count + 1 =>
    HashFunc.sha512.digest (seed ++ Bytes.ofNat 8 start) ++ blocks seed (start + 1) count

/-- Draws so many bytes. None of them is drawn again. -/
def draw (count : Nat) (entropy : Entropy) : Bytes × Entropy :=
  let needed := (count + 63) / 64
  ((blocks entropy.seed entropy.drawn needed).take count,
    { entropy with drawn := entropy.drawn + needed })

end Entropy
end SignerPlugin
