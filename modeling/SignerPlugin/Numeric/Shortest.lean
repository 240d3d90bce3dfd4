import SignerPlugin.Numeric.Binary64

/-! The shortest decimal that reads back as a binary number, and its text. Of several decimals
with that few digits it is the one nearest to the number, and of two that are equally near the
even one. -/

namespace SignerPlugin.Numeric

/-- The number `digits` · 10 ^ `exponent`. -/
structure Decimal where
  digits : Nat
  exponent : Int
  deriving DecidableEq, Repr

namespace Shortest

/-- Compares a fraction with m · 10 ^ e. -/
private def compareWith (num den mantissa : Nat) (exponent : Int) : Ordering :=
  compare (num * Nat.pow 10 (-exponent).toNat) (mantissa * den * Nat.pow 10 exponent.toNat)

private def length (n : Nat) : Nat := (Nat.toDigits 10 n).length

/-- The least power of ten above a fraction that is not zero. -/
def scale (num den : Nat) : Int :=
  let guess : Int := (length num : Int) - length den
  if compareWith num den 1 guess = .lt then guess else guess + 1

/-- The decimal on the grid of 10 ^ `exponent` that reads back as `x`, which is the fraction
given. -/
def onGrid? (x : Binary64) (num den : Nat) (exponent : Int) : Option Decimal :=
  let low := num * Nat.pow 10 (-exponent).toNat / (den * Nat.pow 10 exponent.toNat)
  let readsBack (digits : Nat) : Bool := Binary64.ofDecimal digits exponent = x
  match readsBack low, readsBack (low + 1) with
  | false, false => none
  | true, false => some ⟨low, exponent⟩
  | false, true => some ⟨low + 1, exponent⟩
  | true, true => match compareWith (2 * num) den (2 * low + 1) exponent with
    | .lt => some ⟨low, exponent⟩
    | .gt => some ⟨low + 1, exponent⟩
    | .eq => some ⟨low + low % 2, exponent⟩

/-- The decimal without zeros at its end. `left` bounds their number. -/
def trimmed : (left : Nat) → Decimal → Decimal
  | 0, decimal => decimal
  | left + 1, ⟨digits, exponent⟩ =>
    if digits ≠ 0 ∧ digits % 10 = 0 then trimmed left ⟨digits / 10,
      exponent + 1⟩ else ⟨digits, exponent⟩

end Shortest

/-- The shortest decimal of the size of a finite number; no number needs more than 17 digits. -/
def Binary64.shortest? (x : Binary64) : Option Decimal :=
  match x with
  | .finite mantissa exponent =>
    let size : Binary64 := .finite mantissa.natAbs exponent
    match size.ratio? with
    | some (num, den) =>
      if num = 0 then some ⟨0, 0⟩
      else
        let scale := Shortest.scale num.natAbs den
        let found := (List.range 17).findSome? fun (n : Nat) =>
          Shortest.onGrid? size num.natAbs den (scale - (n : Int) - 1)
        found.map (Shortest.trimmed 17)
    | none => none
  | _ => none

/-- The text of a decimal: with a point where it stands near the digits, and a zero on an
empty side of it, or else one digit before the point and an exponent of two digits at
least. -/
def Decimal.text (decimal : Decimal) : String :=
  let digits := Nat.toDigits 10 decimal.digits
  let point : Int := digits.length + decimal.exponent
  if 16 < point ∨ point < -3 then
    let power := (point - 1).natAbs
    let fraction := if digits.length = 1 then [] else '.' :: digits.drop 1
    String.ofList (digits.take 1 ++ fraction ++ ['e', if point < 1 then '-' else '+']) ++
      (if power < 10 then "0" else "") ++ toString power
  else
    let zeros (n : Int) := List.replicate n.toNat '0'
    let whole := if 0 < point then digits.take point.toNat ++ zeros decimal.exponent else ['0']
    let fraction :=
      if decimal.exponent < 0 then zeros (-point) ++ digits.drop point.toNat else ['0']
    String.ofList (whole ++ '.' :: fraction)

/-- The shortest text of a number. -/
def Binary64.text : Binary64 → String
  | .nan => "nan"
  | .infinite negative => if negative then "-inf" else "inf"
  | .finite mantissa exponent =>
    (if mantissa < 0 then "-" else "") ++
      (((Binary64.finite mantissa exponent).shortest?).map Decimal.text).getD ""

end SignerPlugin.Numeric
