import SignerPlugin.Digest.Blocks

/-! The SHA-2 hash functions. They come in two families, on words of 32 and of 64 bits, that
differ in word size, number of steps and amounts of rotation only. Their constants are the
fractional parts of roots of the first primes. -/

namespace SignerPlugin.Digest.Sha2

/-- The greatest number below 2 ^ 67 whose `power`-th power is at most `n`. -/
def root (power n : Nat) : Nat :=
  (List.range 67).foldr (fun bit found =>
    if Nat.pow (found + Nat.pow 2 bit) power ≤ n then found + Nat.pow 2 bit else found) 0

def isPrime (n : Nat) : Bool :=
  2 ≤ n && (List.range n).all fun d => d < 2 || n % d ≠ 0

/-- The first eighty primes. -/
def primes : List Nat := (List.range 410).filter isPrime

/-- The first 64 bits of the fractional part of a prime's cube root. -/
def cubeRootBits (prime : Nat) : Nat := root 3 (prime <<< 192) % Nat.pow 2 64

/-- The first 64 bits of the fractional part of a prime's square root. -/
def squareRootBits (prime : Nat) : Nat := root 2 (prime <<< 128) % Nat.pow 2 64

/-- Amounts by which a word is rotated twice, and rotated or shifted once more. -/
structure Amounts where
  first : Nat
  second : Nat
  third : Nat

/-- What sets a family apart. -/
structure Family (ω : Type) where
  wordSize : Nat
  ofNat : Nat → ω
  toNat : ω → Nat
  rotate : ω → Nat → ω
  shift : ω → Nat → ω
  constants : List ω
  upperA : Amounts
  upperE : Amounts
  lowerEarly : Amounts
  lowerLate : Amounts

structure State (ω : Type) where
  a : ω
  b : ω
  c : ω
  d : ω
  e : ω
  f : ω
  g : ω
  h : ω

def State.toList {ω : Type} (s : State ω) : List ω := [s.a, s.b, s.c, s.d, s.e, s.f, s.g, s.h]

def State.ofList {ω : Type} (default : ω) (words : List ω) : State ω :=
  let at_ (i : Nat) := words.getD i default
  ⟨at_ 0, at_ 1, at_ 2, at_ 3, at_ 4, at_ 5, at_ 6, at_ 7⟩

section

variable {ω : Type} [Add ω] [XorOp ω] [AndOp ω] [Complement ω]

def Family.upper (family : Family ω) (amounts : Amounts) (x : ω) : ω :=
  family.rotate x amounts.first ^^^ family.rotate x amounts.second ^^^ family.rotate x amounts.third

def Family.lower (family : Family ω) (amounts : Amounts) (x : ω) : ω :=
  family.rotate x amounts.first ^^^ family.rotate x amounts.second ^^^ family.shift x amounts.third

/-- The words of all steps: the sixteen of the block, and then each from four before it. -/
def Family.schedule (family : Family ω) (block : Bytes) : Array ω :=
  let words := ((groups family.wordSize block).map fun bytes => family.ofNat bytes.toNat).toArray
  (List.range (family.constants.length - 16)).foldl (fun words _ =>
    let back (n : Nat) := words.getD (words.size - n) (family.ofNat 0)
    words.push (family.lower family.lowerLate (back 2) + back 7 +
      family.lower family.lowerEarly (back 15) + back 16)) words

def Family.step (family : Family ω) (s : State ω) (input : ω × ω) : State ω :=
  let (constant, word) := input
  let choice := (s.e &&& s.f) ^^^ (~~~s.e &&& s.g)
  let majority := (s.a &&& s.b) ^^^ (s.a &&& s.c) ^^^ (s.b &&& s.c)
  let first := s.h + family.upper family.upperE s.e + choice + constant + word
  let second := family.upper family.upperA s.a + majority
  ⟨first + second, s.a, s.b, s.c, s.d + first, s.e, s.f, s.g⟩

def Family.compress (family : Family ω) (state : State ω) (block : Bytes) : State ω :=
  let words := (family.schedule block).toList
  let last := (family.constants.zip words).foldl family.step state
  .ofList (family.ofNat 0) (List.zipWith (· + ·) state.toList last.toList)

/-- The state after a message. -/
def Family.run (family : Family ω) (initial : State ω) (message : Bytes) : State ω :=
  let size := 16 * family.wordSize
  let lengthSize := 2 * family.wordSize
  (groups size (padded size lengthSize (Bytes.ofNat lengthSize) message)).foldl
    family.compress initial

/-- The words of a state as bytes, cut to a length. -/
def Family.output (family : Family ω) (length : Nat) (state : State ω) : Bytes :=
  (state.toList.flatMap fun word => Bytes.ofNat family.wordSize (family.toNat word)).take length

end

def narrow : Family UInt32 where
  wordSize := 4
  ofNat := UInt32.ofNat
  toNat := UInt32.toNat
  rotate x n := (x >>> UInt32.ofNat n) ||| (x <<< UInt32.ofNat (32 - n))
  shift x n := x >>> UInt32.ofNat n
  constants := (primes.take 64).map fun prime => UInt32.ofNat (cubeRootBits prime >>> 32)
  upperA := ⟨2, 13, 22⟩
  upperE := ⟨6, 11, 25⟩
  lowerEarly := ⟨7, 18, 3⟩
  lowerLate := ⟨17, 19, 10⟩

def wide : Family UInt64 where
  wordSize := 8
  ofNat := UInt64.ofNat
  toNat := UInt64.toNat
  rotate x n := (x >>> UInt64.ofNat n) ||| (x <<< UInt64.ofNat (64 - n))
  shift x n := x >>> UInt64.ofNat n
  constants := primes.map fun prime => UInt64.ofNat (cubeRootBits prime)
  upperA := ⟨28, 34, 39⟩
  upperE := ⟨14, 18, 41⟩
  lowerEarly := ⟨1, 8, 7⟩
  lowerLate := ⟨19, 61, 6⟩

/-- The initial states are roots of the first eight primes, or of the next eight. -/
def initial224 : State UInt32 :=
  .ofList 0 (((primes.drop 8).take 8).map fun prime => UInt32.ofNat (squareRootBits prime))

def initial256 : State UInt32 :=
  .ofList 0 ((primes.take 8).map fun prime => UInt32.ofNat (squareRootBits prime >>> 32))

def initial384 : State UInt64 :=
  .ofList 0 (((primes.drop 8).take 8).map fun prime => UInt64.ofNat (squareRootBits prime))

def initial512 : State UInt64 :=
  .ofList 0 ((primes.take 8).map fun prime => UInt64.ofNat (squareRootBits prime))

/-- The initial state of a shortened function is the hash of its name under a masked state. -/
def initialShortened (name : String) : State UInt64 :=
  let masked := initial512.toList.map (· ^^^ 0xa5a5a5a5a5a5a5a5)
  wide.run (.ofList 0 masked) (Bytes.ofText name)

def initial512_224 : State UInt64 := initialShortened "SHA-512/224"

def initial512_256 : State UInt64 := initialShortened "SHA-512/256"

def digest224 (message : Bytes) : Bytes := narrow.output 28 (narrow.run initial224 message)

def digest256 (message : Bytes) : Bytes := narrow.output 32 (narrow.run initial256 message)

def digest384 (message : Bytes) : Bytes := wide.output 48 (wide.run initial384 message)

def digest512 (message : Bytes) : Bytes := wide.output 64 (wide.run initial512 message)

def digest512_224 (message : Bytes) : Bytes := wide.output 28 (wide.run initial512_224 message)

def digest512_256 (message : Bytes) : Bytes := wide.output 32 (wide.run initial512_256 message)

end SignerPlugin.Digest.Sha2
