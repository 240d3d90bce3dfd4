import SignerPlugin.Text.Blank
import SignerPlugin.Text.CodePoint

/-! Decimal digits of all scripts, and numbers written with them. -/

namespace SignerPlugin.Text

/-- The zeros of all scripts; the nine other digits follow each of them in order. -/
def zeros : List Nat :=
  [48, 1632, 1776, 1984, 2406, 2534, 2662, 2790, 2918, 3046, 3174, 3302, 3430, 3558, 3664, 3792,
    3872, 4160, 4240, 6112, 6160, 6470, 6608, 6784, 6800, 6992, 7088, 7232, 7248, 42528, 43216,
    43264, 43472, 43504, 43600, 44016, 65296, 66720, 68912, 69734, 69872, 69942, 70096, 70384,
    70736, 70864, 71248, 71360, 71472, 71904, 72016, 72784, 73040, 73120, 92768, 92864, 93008,
    120782, 120792, 120802, 120812, 120822, 123200, 123632, 125264, 130032]

/-- The value of a character that is a decimal digit in some script. -/
def digitValue? (c : Char) : Option Nat :=
  (zeros.find? fun start => start ≤ c.toNat && c.toNat < start + 10).map (c.toNat - ·)

/-- How a code point is read in a number: digits of all scripts and blanks beyond the basic
alphabet are as good as those in it. Nothing else beyond the alphabet has a place in a
number. -/
def CodePoint.inNumber (point : CodePoint) : Char :=
  let c := point.shown
  if c.toNat < 127 then c
  else if isBlank c then ' '
  else match digitValue? c with
    | some value => Char.ofNat ('0'.toNat + value)
    | none => '?'

/-- Whether a character of the basic alphabet may stand around a number. -/
def isNumberBlank (c : Char) : Bool := c = ' ' || (9 ≤ c.toNat && c.toNat ≤ 13)

/-- The text of a number in the basic alphabet, without the blanks at its two ends. -/
def numberChars (text : CodeText) : List Char :=
  (((text.map CodePoint.inNumber).dropWhile isNumberBlank).reverse.dropWhile isNumberBlank).reverse

end SignerPlugin.Text
