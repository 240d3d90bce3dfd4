import SignerPlugin.Digest.Blocks

/-! The SHA-3 hash functions. Their state is 25 lanes of 64 bits; lane x, y has the index x +
5 y, and a lane is written with its least significant byte first. -/

namespace SignerPlugin.Digest.Sha3

/-- The 25 lanes. -/
abbrev Lanes := Array UInt64

def rotateLeft (x : UInt64) (amount : Nat) : UInt64 :=
  if amount = 0 then x else (x <<< UInt64.ofNat amount) ||| (x >>> UInt64.ofNat (64 - amount))

def lane (lanes : Lanes) (x y : Nat) : UInt64 := lanes.getD (x % 5 + 5 * (y % 5)) 0

/-- New lanes from their coordinates. -/
def build (f : Nat → Nat → UInt64) : Lanes :=
  ((List.range 25).map fun i => f (i % 5) (i / 5)).toArray

/-- Adds to each lane the parities of two columns beside it. -/
def theta (lanes : Lanes) : Lanes :=
  let parity (x : Nat) :=
    lane lanes x 0 ^^^ lane lanes x 1 ^^^ lane lanes x 2 ^^^ lane lanes x 3 ^^^ lane lanes x 4
  let effect :=
    ((List.range 5).map fun x => parity (x + 4) ^^^ rotateLeft (parity (x + 1)) 1).toArray
  build fun x y => lane lanes x y ^^^ effect.getD x 0

/-- How far each lane is rotated, by its index. -/
def rotations : Array Nat :=
  #[0, 1, 62, 28, 27, 36, 44, 6, 55, 20, 3, 10, 43, 25, 39, 41, 45, 15, 21, 8, 18, 2, 61, 56, 14]

/-- Rotates every lane and moves it to its new place. -/
def rhoPi (lanes : Lanes) : Lanes :=
  build fun x y =>
    let source := (x + 3 * y) % 5
    rotateLeft (lane lanes source x) (rotations.getD (source + 5 * x) 0)

/-- Adds to each lane the product of the two lanes after it in its row. -/
def chi (lanes : Lanes) : Lanes :=
  build fun x y => lane lanes x y ^^^ (~~~lane lanes (x + 1) y &&& lane lanes (x + 2) y)

/-- The constants that the rounds add to the first lane. -/
def roundConstants : List UInt64 :=
  [0x0000000000000001, 0x0000000000008082, 0x800000000000808a, 0x8000000080008000,
    0x000000000000808b, 0x0000000080000001, 0x8000000080008081, 0x8000000000008009,
    0x000000000000008a, 0x0000000000000088, 0x0000000080008009, 0x000000008000000a,
    0x000000008000808b, 0x800000000000008b, 0x8000000000008089, 0x8000000000008003,
    0x8000000000008002, 0x8000000000000080, 0x000000000000800a, 0x800000008000000a,
    0x8000000080008081, 0x8000000000008080, 0x0000000080000001, 0x8000000080008008]

/-- The permutation: one round for each constant. -/
def permute (lanes : Lanes) : Lanes :=
  roundConstants.foldl (fun lanes constant =>
    let mixed := chi (rhoPi (theta lanes))
    mixed.setIfInBounds 0 (mixed.getD 0 0 ^^^ constant)) lanes

/-- Adds a block to the first lanes and permutes them all. -/
def absorb (lanes : Lanes) (block : Bytes) : Lanes :=
  let words := ((groups 8 block).map fun bytes => UInt64.ofNat bytes.toNatLittle).toArray
  permute (build fun x y => lane lanes x y ^^^ words.getD (x + 5 * y) 0)

/-- The message filled up to blocks of `rate` bytes: the bits 0, 1, 1, then zeros, then a last
one. -/
def padded (rate : Nat) (message : Bytes) : Bytes :=
  let missing := rate - message.length % rate
  message ++ (if missing = 1 then [0x86] else 0x06 :: (List.replicate (missing - 2) 0 ++ [0x80]))

/-- The digest of `length` bytes; a block is as long as leaves twice that much of the state out. -/
def digest (length : Nat) (message : Bytes) : Bytes :=
  let rate := 200 - 2 * length
  let lanes := (groups rate (padded rate message)).foldl absorb (Array.replicate 25 0)
  (lanes.toList.flatMap fun word => Bytes.ofNatLittle 8 word.toNat).take length

end SignerPlugin.Digest.Sha3
