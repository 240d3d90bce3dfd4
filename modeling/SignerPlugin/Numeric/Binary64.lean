/-! Binary floating-point numbers of 64 bits, kept as exact values m · 2 ^ q. Every operation
that can leave them is the exact operation on fractions, rounded to the nearest such number; a
tie goes to the even mantissa. -/

namespace SignerPlugin.Numeric

/-- A binary floating-point number of 64 bits; `finite m q` is m · 2 ^ q. -/
inductive Binary64
  | nan
  | infinite (negative : Bool)
  | finite (mantissa exponent : Int)
  deriving DecidableEq, Repr

namespace Binary64

/-- The least exponent, that of the smallest positive number. -/
def minExponent : Int := -1074

/-- A mantissa has fewer than this many units. -/
def mantissaBound : Nat := Nat.pow 2 53

/-- The whole number nearest to a quotient; a tie goes to the even one. -/
def divNearestEven (num den : Nat) : Nat :=
  let low := num / den
  let left := num % den
  if 2 * left < den then low
  else if den < 2 * left then low + 1
  else low + low % 2

/-- A fraction n / d split as a quotient in units of 2 ^ q. -/
private def scaled (num den : Nat) (exponent : Int) : Nat × Nat :=
  if 0 ≤ exponent then (num, den * Nat.pow 2 exponent.toNat)
    else (num * Nat.pow 2 (-exponent).toNat, den)

/-- The number nearest to a fraction. -/
def ofRatio (num : Int) (den : Nat) : Binary64 :=
  let size := num.natAbs
  if size = 0 ∨ den = 0 then .finite 0 0
  else
    let guess : Int := (Nat.log2 size : Int) - (Nat.log2 den : Int) - 52
    let exponent (q : Int) := if q < minExponent then minExponent else q
    let first := exponent (guess - 1)
    let (n, d) := scaled size den first
    let q := if n / d < mantissaBound then first else exponent (first + 1)
    let (n, d) := scaled size den q
    let q := if n / d < mantissaBound then q else exponent (q + 1)
    let (n, d) := scaled size den q
    let mantissa := divNearestEven n d
    if 972 ≤ q ∨ (q = 971 ∧ mantissaBound ≤ mantissa) then .infinite (num < 0)
    else .finite (if num < 0 then -(mantissa : Int) else mantissa) q

/-- The number nearest to m · 10 ^ e. Beyond 10 ^ 400 every number is infinite and below 10 ^ -400
zero, so that no larger power of ten is ever computed. -/
def ofDecimal (mantissa exponent : Int) : Binary64 :=
  let digits : Int := (Nat.toDigits 10 mantissa.natAbs).length
  if mantissa = 0 then .finite 0 0
  else if 400 < digits + exponent then .infinite (mantissa < 0)
  else if digits + exponent < -400 then .finite 0 0
  else if 0 ≤ exponent then ofRatio (mantissa * Nat.pow 10 exponent.toNat) 1
  else ofRatio mantissa (Nat.pow 10 (-exponent).toNat)

/-- The value as a fraction; nothing for what is not finite. -/
def ratio? : Binary64 → Option (Int × Nat)
  | .finite mantissa exponent =>
    if 0 ≤ exponent then some (mantissa * Nat.pow 2 exponent.toNat, 1)
    else some (mantissa, Nat.pow 2 (-exponent).toNat)
  | _ => none

/-- The whole number that the value is, if it is one. -/
def toInt? (x : Binary64) : Option Int :=
  match x.ratio? with
  | some (num, den) => if num % (den : Int) = 0 then some (num / (den : Int)) else none
  | none => none

/-- The greatest whole number not above the value. -/
def floor? (x : Binary64) : Option Int :=
  x.ratio?.map fun (num, den) => Int.fdiv num den

/-- The whole number nearest to the value; a tie goes away from zero. -/
def round? (x : Binary64) : Option Int :=
  x.ratio?.map fun (num, den) =>
    let size := (2 * num.natAbs + den) / (2 * den)
    if num < 0 then -(size : Int) else size

/-- The number nearest to the sum. -/
def add : Binary64 → Binary64 → Binary64
  | .nan, _ | _, .nan => .nan
  | .infinite negative, .infinite other => if negative = other then .infinite negative else .nan
  | .infinite negative, _ | _, .infinite negative => .infinite negative
  | .finite m q, .finite n r =>
    let exponent := min q r
    let sum := m * Nat.pow 2 (q - exponent).toNat + n * Nat.pow 2 (r - exponent).toNat
    if 0 ≤ exponent then ofRatio (sum * Nat.pow 2 exponent.toNat) 1
    else ofRatio sum (Nat.pow 2 (-exponent).toNat)

private def sign : Binary64 → Int
  | .nan => 0
  | .infinite negative => if negative then -1 else 1
  | .finite m _ => m.sign

/-- The number nearest to the product. -/
def mul : Binary64 → Binary64 → Binary64
  | .finite m q, .finite n r =>
    let exponent := q + r
    if 0 ≤ exponent then ofRatio (m * n * Nat.pow 2 exponent.toNat) 1
    else ofRatio (m * n) (Nat.pow 2 (-exponent).toNat)
  | x, y => if sign x * sign y = 0 then .nan else .infinite (sign x * sign y < 0)

def neg : Binary64 → Binary64
  | .finite m q => .finite (-m) q
  | .infinite negative => .infinite !negative
  | .nan => .nan

end Binary64
end SignerPlugin.Numeric
