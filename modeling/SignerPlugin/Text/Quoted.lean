import SignerPlugin.Text.CodePoint
import SignerPlugin.Text.Printable

/-! Texts as they stand in reports: between single quotes, or between double quotes when they hold
single ones only, with everything escaped that would not show. -/

namespace SignerPlugin.Text

private def hexDigits (width n : Nat) : List Char :=
  let digits := Nat.toDigits 16 n
  List.replicate (width - digits.length) '0' ++ digits

/-- How a code point stands between quotes of a kind. -/
def escaped (quote : Char) : CodePoint → List Char
  | .surrogate place => '\\' :: 'u' :: hexDigits 4 (CodePoint.surrogate place).toNat
  | .char c =>
    if c = quote ∨ c = '\\' then ['\\', c]
    else if c = '\t' then ['\\', 't']
    else if c = '\n' then ['\\', 'n']
    else if c = '\r' then ['\\', 'r']
    else if isPrintable c then [c]
    else if c.toNat < 0x100 then '\\' :: 'x' :: hexDigits 2 c.toNat
    else if c.toNat < 0x10000 then '\\' :: 'u' :: hexDigits 4 c.toNat
    else '\\' :: 'U' :: hexDigits 8 c.toNat

/-- The quotes that a text is put between. -/
def quoteFor (text : CodeText) : Char :=
  if text.contains (.char '\'') && !text.contains (.char '"') then '"' else '\''

/-- The text between quotes. -/
def quotedCodes (text : CodeText) : String :=
  let quote := quoteFor text
  String.ofList (quote :: (text.flatMap (escaped quote) ++ [quote]))

/-- The string between quotes. -/
def quoted (text : String) : String := quotedCodes (.ofString text)

/-- A list of texts, each between quotes. -/
def quotedList (texts : List String) : String :=
  "[" ++ ", ".intercalate (texts.map quoted) ++ "]"

end SignerPlugin.Text
