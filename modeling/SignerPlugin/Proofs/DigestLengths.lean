import SignerPlugin.Digest
import SignerPlugin.Proofs.ByteNumbers

/-! Digests have the lengths of their hash functions, whatever the message: what is written of
a state, or cut from it, does not depend on what the state holds. -/

namespace SignerPlugin

namespace Digest

private theorem Sha2.length_output {ω : Type} (family : Sha2.Family ω) (length : Nat)
    (state : Sha2.State ω) :
    (family.output length state).length = min length (8 * family.wordSize) := by
  simp only [Sha2.Family.output, Sha2.State.toList, List.length_take, List.length_flatMap,
    Bytes.length_ofNat]
  simp
  omega

namespace Sha3

theorem size_build (f : Nat → Nat → UInt64) : (build f).size = 25 := by simp [build]

private theorem size_permute {lanes : Lanes} (full : lanes.size = 25) :
    (permute lanes).size = 25 := by
  refine List.foldlRecOn (motive := fun lanes : Lanes => lanes.size = 25) roundConstants _ full ?_
  intro lanes _ constant _
  rw [Array.size_setIfInBounds, chi, size_build]

private theorem size_absorb (lanes : Lanes) (block : Bytes) : (absorb lanes block).size = 25 :=
  size_permute (size_build _)

theorem length_digest (length : Nat) (message : Bytes) :
    (digest length message).length = min length 200 := by
  have full (blocks : List Bytes) : (blocks.foldl absorb (Array.replicate 25 0)).size = 25 :=
    List.foldlRecOn (motive := fun lanes : Lanes => lanes.size = 25) blocks _ Array.size_replicate
      fun lanes _ block _ => size_absorb lanes block
  simp only [digest, List.length_take, List.length_flatMap, Bytes.ofNatLittle,
    List.length_reverse, Bytes.length_ofNat, List.map_const', List.sum_replicate_nat,
    Array.length_toList, full]

end Sha3
end Digest

theorem HashFunc.length_digest (hash : HashFunc) (message : Bytes) :
    (hash.digest message).length = hash.digestSize := by
  cases hash with
  | md5 => simp [digest, Digest.Md5.digest, Bytes.ofNatLittle, Bytes.length_ofNat, digestSize]
  | sha1 => simp [digest, Digest.Sha1.digest, Bytes.length_ofNat, digestSize]
  | sha3_224 | sha3_256 | sha3_384 | sha3_512 => exact Digest.Sha3.length_digest _ _
  | _ => exact Digest.Sha2.length_output _ _ _

end SignerPlugin
