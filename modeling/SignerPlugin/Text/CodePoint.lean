/-! Code points: the characters, and the surrogates, which are none. Escapes can put a single
surrogate into a text; such a text is a list of code points, and no string. -/

namespace SignerPlugin.Text

inductive CodePoint
  | char (c : Char)
  /-- The surrogate with this place among all of them. -/
  | surrogate (place : Fin 0x800)
  deriving DecidableEq, Repr

namespace CodePoint

instance : Inhabited CodePoint := ⟨.char 'A'⟩

/-- The first surrogate. -/
def firstSurrogate : Nat := 0xD800

def toNat : CodePoint → Nat
  | .char c => c.toNat
  | .surrogate place => firstSurrogate + place

/-- The code point with a number. -/
def ofNat? (n : Nat) : Option CodePoint :=
  if valid : n.isValidChar then some (.char (.ofNatAux n valid))
  else if surrogate : n - firstSurrogate <
    0x800 then some (.surrogate ⟨n - firstSurrogate, surrogate⟩)
  else none

/-- The character that is shown for a code point. -/
def shown : CodePoint → Char
  | .char c => c
  | .surrogate _ => '\uFFFD'

/-- The character that a code point is. -/
def char? : CodePoint → Option Char
  | .char c => some c
  | .surrogate _ => none

@[simp]
theorem ofNat?_toNat_char (c : Char) : ofNat? (CodePoint.char c).toNat = some (.char c) := by
  have valid : c.toNat.isValidChar := c.valid
  unfold ofNat? toNat
  rw [dif_pos valid]
  congr

end CodePoint

/-- A text in which single surrogates may stand. -/
abbrev CodeText := List CodePoint

namespace CodeText

def ofChars (chars : List Char) : CodeText := chars.map .char

def ofString (text : String) : CodeText := ofChars text.toList

/-- The characters of a text without surrogates. -/
def chars? (text : CodeText) : Option (List Char) := text.mapM CodePoint.char?

def string? (text : CodeText) : Option String := text.chars?.map String.ofList

/-- The string that is shown for a text. -/
def shown (text : CodeText) : String := String.ofList (text.map CodePoint.shown)

@[simp]
theorem chars?_ofChars (chars : List Char) : chars? (ofChars chars) = some chars := by
  induction chars with
  | nil => rfl
  | cons c rest ih =>
    have step : chars? (ofChars (c :: rest)) = (chars? (ofChars rest)).map (c :: ·) := by
      simp only [chars?, ofChars, List.map_cons, List.mapM_cons, CodePoint.char?]
      cases List.mapM CodePoint.char? (List.map CodePoint.char rest) <;> rfl
    rw [step, ih]
    rfl

end CodeText
end SignerPlugin.Text
