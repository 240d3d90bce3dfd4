import SignerPlugin.Digest.Blocks

/-! The hash function SHA-1. -/

namespace SignerPlugin.Digest.Sha1

structure State where
  a : UInt32
  b : UInt32
  c : UInt32
  d : UInt32
  e : UInt32

def initial : State := ⟨0x67452301, 0xefcdab89, 0x98badcfe, 0x10325476, 0xc3d2e1f0⟩

def rotateLeft (x : UInt32) (amount : UInt32) : UInt32 := (x <<< amount) ||| (x >>> (32 - amount))

/-- The eighty words of a block: its own sixteen, and then each from four before it. -/
def schedule (block : Bytes) : Array UInt32 :=
  let words := ((groups 4 block).map fun bytes => UInt32.ofNat bytes.toNat).toArray
  (List.range 64).foldl (fun words _ =>
    let back (n : Nat) := words.getD (words.size - n) 0
    words.push (rotateLeft (back 3 ^^^ back 8 ^^^ back 14 ^^^ back 16) 1)) words

def step (state : State) (at_ : UInt32 × Nat) : State :=
  let (word, i) := at_
  let ⟨a, b, c, d, e⟩ := state
  let (mix, constant) : UInt32 × UInt32 := match i / 20 with
    | 0 => ((b &&& c) ||| (~~~b &&& d), 0x5a827999)
    | 1 => (b ^^^ c ^^^ d, 0x6ed9eba1)
    | 2 => ((b &&& c) ||| (b &&& d) ||| (c &&& d), 0x8f1bbcdc)
    | _ => (b ^^^ c ^^^ d, 0xca62c1d6)
  ⟨rotateLeft a 5 + mix + e + constant + word, a, rotateLeft b 30, c, d⟩

def compress (state : State) (block : Bytes) : State :=
  let last := (schedule block).toList.zipIdx.foldl step state
  ⟨state.a + last.a, state.b + last.b, state.c + last.c, state.d + last.d, state.e + last.e⟩

def digest (message : Bytes) : Bytes :=
  let ⟨a, b, c, d, e⟩ := (groups 64 (padded 64 8 (Bytes.ofNat 8) message)).foldl compress initial
  [a, b, c, d, e].flatMap fun word => Bytes.ofNat 4 word.toNat

end SignerPlugin.Digest.Sha1
