/-! Texts in capital letters. Settings are words of the basic alphabet, so only those
characters matter whose capital form lies in it. -/

namespace SignerPlugin.Text

/-- The capital form of a character as far as it lies in the basic alphabet: small letters, the two
letters whose capital form is an `I` or `S` of it, and the ligatures that part into its letters. -/
def capital (c : Char) : List Char :=
  if c.isLower then [c.toUpper]
  else if c = 'ı' then ['I']
  else if c = 'ſ' then ['S']
  else if c = 'ß' then ['S', 'S']
  else if c = 'ﬀ' then ['F', 'F']
  else if c = 'ﬁ' then ['F', 'I']
  else if c = 'ﬂ' then ['F', 'L']
  else if c = 'ﬃ' then ['F', 'F', 'I']
  else if c = 'ﬄ' then ['F', 'F', 'L']
  else if c = 'ﬅ' ∨ c = 'ﬆ' then ['S', 'T']
  else [c]

/-- The text in capital letters. -/
def capitals (text : String) : String := String.ofList (text.toList.flatMap capital)

end SignerPlugin.Text
