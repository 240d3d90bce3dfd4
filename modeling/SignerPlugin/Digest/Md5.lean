import SignerPlugin.Digest.Blocks

/-! The hash function MD5. -/

namespace SignerPlugin.Digest.Md5

structure State where
  a : UInt32
  b : UInt32
  c : UInt32
  d : UInt32

def initial : State := ⟨0x67452301, 0xefcdab89, 0x98badcfe, 0x10325476⟩

/-- The constants of the 64 steps: 2 ^ 32 times the sizes of the sines of 1 to 64, cut. -/
def constants : List UInt32 :=
  [0xd76aa478, 0xe8c7b756, 0x242070db, 0xc1bdceee, 0xf57c0faf, 0x4787c62a, 0xa8304613, 0xfd469501,
    0x698098d8, 0x8b44f7af, 0xffff5bb1, 0x895cd7be, 0x6b901122, 0xfd987193, 0xa679438e, 0x49b40821,
    0xf61e2562, 0xc040b340, 0x265e5a51, 0xe9b6c7aa, 0xd62f105d, 0x02441453, 0xd8a1e681, 0xe7d3fbc8,
    0x21e1cde6, 0xc33707d6, 0xf4d50d87, 0x455a14ed, 0xa9e3e905, 0xfcefa3f8, 0x676f02d9, 0x8d2a4c8a,
    0xfffa3942, 0x8771f681, 0x6d9d6122, 0xfde5380c, 0xa4beea44, 0x4bdecfa9, 0xf6bb4b60, 0xbebfbc70,
    0x289b7ec6, 0xeaa127fa, 0xd4ef3085, 0x04881d05, 0xd9d4d039, 0xe6db99e5, 0x1fa27cf8, 0xc4ac5665,
    0xf4292244, 0x432aff97, 0xab9423a7, 0xfc93a039, 0x655b59c3, 0x8f0ccc92, 0xffeff47d, 0x85845dd1,
    0x6fa87e4f, 0xfe2ce6e0, 0xa3014314, 0x4e0811a1, 0xf7537e82, 0xbd3af235, 0x2ad7d2bb, 0xeb86d391]

/-- How far a step rotates: each quarter of the steps has four amounts in turn. -/
def rotation (step : Nat) : Nat :=
  let amounts := match step / 16 with
    | 0 => [7, 12, 17, 22]
    | 1 => [5, 9, 14, 20]
    | 2 => [4, 11, 16, 23]
    | _ => [6, 10, 15, 21]
  amounts.getD (step % 4) 0

def rotateLeft (x : UInt32) (amount : Nat) : UInt32 :=
  (x <<< UInt32.ofNat amount) ||| (x >>> UInt32.ofNat (32 - amount))

/-- One step on a block of sixteen words. -/
def step (words : List UInt32) (state : State) (at_ : UInt32 × Nat) : State :=
  let (constant, i) := at_
  let ⟨a, b, c, d⟩ := state
  let (mix, word) := match i / 16 with
    | 0 => ((b &&& c) ||| (~~~b &&& d), i)
    | 1 => ((d &&& b) ||| (~~~d &&& c), 5 * i + 1)
    | 2 => (b ^^^ c ^^^ d, 3 * i + 5)
    | _ => (c ^^^ (b ||| ~~~d), 7 * i)
  let sum := a + mix + constant + words.getD (word % 16) 0
  ⟨d, b + rotateLeft sum (rotation i), b, c⟩

def compress (state : State) (block : Bytes) : State :=
  let words := (groups 4 block).map fun bytes => UInt32.ofNat bytes.toNatLittle
  let last := constants.zipIdx.foldl (step words) state
  ⟨state.a + last.a, state.b + last.b, state.c + last.c, state.d + last.d⟩

def digest (message : Bytes) : Bytes :=
  let ⟨a, b, c, d⟩ := (groups 64 (padded 64 8 (Bytes.ofNatLittle 8) message)).foldl compress initial
  [a, b, c, d].flatMap fun word => Bytes.ofNatLittle 4 word.toNat

end SignerPlugin.Digest.Md5
