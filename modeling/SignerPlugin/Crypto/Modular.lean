/-! Arithmetic with remainders: powers, inverses, square roots, and a test for primes. -/

namespace SignerPlugin.Crypto

/-- The power `base ^ exponent`, by squaring, reduced after every step. -/
def powMod (base exponent modulus : Nat) : Nat :=
  if exponent = 0 then 1 % modulus
  else
    let half := powMod base (exponent / 2) modulus
    let square := half * half % modulus
    if exponent % 2 = 1 then square * (base % modulus) % modulus else square

/-- The difference of two remainders. -/
def subMod (a b modulus : Nat) : Nat := (a % modulus + (modulus - b % modulus)) % modulus

/-- Euclid's algorithm on two numbers, with the factor of the first one that leads to each. -/
private def euclid (a : Nat) (x : Int) (b : Nat) (y : Int) : Nat × Int :=
  if _done : b = 0 then (a, x)
  else euclid b y (a % b) (x - (a / b : Nat) * y)
  termination_by b
  decreasing_by exact Nat.mod_lt _ (Nat.pos_of_ne_zero _done)

/-- The remainder that multiplies with `a` to one; zero when there is none. -/
def invMod (a modulus : Nat) : Nat :=
  match euclid (a % modulus) 1 modulus 0 with
  | (1, x) => (x % (modulus : Int)).toNat
  | _ => 0

/-- A remainder whose square is `a`, for a prime modulus that leaves 3 when divided by 4. -/
def sqrtMod? (a modulus : Nat) : Option Nat :=
  let r := powMod a ((modulus + 1) / 4) modulus
  if r * r % modulus = a % modulus then some r else none

/-- An odd number less one as an odd number times a power of two; `fuel` bounds the exponent. -/
private def halvings : (fuel : Nat) → Nat → Nat × Nat
  | 0, n => (n, 0)
  | fuel + 1, n =>
    if n % 2 = 0 then let (odd, count) := halvings fuel (n / 2); (odd, count + 1) else (n, 0)

/-- Whether squaring a remainder at most `count` times gives minus one. -/
private def reachesMinusOne (modulus : Nat) : (count : Nat) → Nat → Bool
  | 0, _ => false
  | count + 1, x => x = modulus - 1 || reachesMinusOne modulus count (x * x % modulus)

/-- Whether a number behaves like a prime to a base. -/
private def passes (n base : Nat) : Bool :=
  let (odd, count) := halvings n (n - 1)
  let x := powMod base odd n
  x = 1 || reachesMinusOne n count x

def smallPrimes : List Nat :=
  [2, 3, 5, 7, 11, 13, 17, 19, 23, 29, 31, 37, 41, 43, 47, 53, 59, 61, 67, 71, 73, 79, 83, 89,
    97, 101, 103, 107, 109, 113, 127, 131, 137, 139, 149, 151, 157, 163, 167, 173, 179, 181,
    191, 193, 197, 199]

/-- Whether a number is most likely prime: no small prime divides it, and it behaves like a prime to
several bases. -/
def seemsPrime (n : Nat) : Bool :=
  if n ≤ 199 then smallPrimes.contains n
  else smallPrimes.all (fun p => n % p ≠ 0) && (smallPrimes.take 12).all (passes n)

/-- The first number from an odd one on, in steps of two, that seems prime; `fuel` bounds the
search. -/
def nextPrime : (fuel : Nat) → Nat → Nat
  | 0, n => n
  | fuel + 1, n => if seemsPrime n then n else nextPrime fuel (n + 2)

end SignerPlugin.Crypto
