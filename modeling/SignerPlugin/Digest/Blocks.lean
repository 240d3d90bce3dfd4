import SignerPlugin.Bytes

/-! Messages cut into blocks, as hash functions read them. -/

namespace SignerPlugin.Digest

/-- The message followed by a one bit, zeros, and its length in bits, so that it fills blocks
of `size` bytes. `lengthField` is the length as it is written, in `lengthSize` bytes. -/
def padded (size lengthSize : Nat) (lengthField : Nat → Bytes) (message : Bytes) : Bytes :=
  let used := (message.length + 1 + lengthSize) % size
  let zeros := (size - used) % size
  message ++ 0x80 :: (List.replicate zeros 0 ++ lengthField (message.length * 8))

/-- The bytes in groups of `size`; a last group that is not full is left out. The fuel bounds the
number of groups. -/
def groupsOf (size : Nat) : (fuel : Nat) → Bytes → List Bytes
  | 0, _ => []
  | fuel + 1, bytes =>
    if bytes.length < size ∨ size = 0 then []
    else bytes.take size :: groupsOf size fuel (bytes.drop size)

/-- The bytes in groups of `size`. -/
def groups (size : Nat) (bytes : Bytes) : List Bytes := groupsOf size bytes.length bytes

end SignerPlugin.Digest
