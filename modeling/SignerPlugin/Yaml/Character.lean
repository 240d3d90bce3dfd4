/-! The characters of YAML texts: which may stand in one at all, which end a line, and which
end a word. Line ends within a text are already uniform, so a carriage return is not among
them. -/

namespace SignerPlugin.Yaml

/-- Whether a character may stand in a text. -/
def isAllowed (c : Char) : Bool :=
  let n := c.toNat
  n = 0x09 || n = 0x0A || n = 0x0D || (0x20 ≤ n && n ≤ 0x7E) || n = 0x85 ||
    (0xA0 ≤ n && n ≤ 0xFFFD) || 0x10000 ≤ n

/-- Whether a character ends a line. -/
def isBreak (c : Char) : Bool :=
  c = '\n' || c = '\x85' || c = '\u2028' || c = '\u2029'

/-- What a line end contributes to a text that goes on behind it. -/
def breakText (c : Char) : Char := if c = '\x85' then '\n' else c

def isBlank (c : Char) : Bool := c = ' ' || c = '\t'

/-- Whether a word ends where this input goes on. -/
def endsWord : List Char → Bool
  | [] => true
  | c :: _ => isBlank c || isBreak c

/-- The same, for the places where a tab does not end a word. -/
def endsWordWithoutTab : List Char → Bool
  | [] => true
  | c :: _ => c = ' ' || isBreak c

/-- Whether the input goes on with three of a character and nothing more of the word. -/
def isTriple (c : Char) : List Char → Bool
  | a :: b :: d :: rest => a = c && b = c && d = c && endsWord rest
  | _ => false

/-- Whether a line that begins here parts documents. -/
def isDocumentMark (input : List Char) : Bool := isTriple '-' input || isTriple '.' input

/-- The input from the next line on, if nothing but a comment stands on the rest of this one. -/
def nextLine? (input : List Char) : Option (List Char) :=
  let rest := input.dropWhile (· = ' ')
  let rest := if rest.head? = some '#' then rest.dropWhile fun c => !isBreak c else rest
  match rest with
  | [] => some []
  | c :: rest => if isBreak c then some rest else none

/-- A text without a line end behind it, of which the kinds of scalars take no notice. -/
def withoutLastBreak (text : List Char) : List Char :=
  if text.getLast? = some '\n' then text.dropLast else text

/-- What lines joined in a text that is folded leave between them: the line end that was first, and
those of the empty lines after it. A single line end becomes a space. -/
def folded (first : Char) (more : List Char) : List Char :=
  if breakText first ≠ '\n' then breakText first :: more
  else if more.isEmpty then [' ']
  else more

/-- Letters, digits, hyphens and underscores, of which names consist. -/
def isNameChar (c : Char) : Bool := c.isAlphanum || c = '-' || c = '_'

end SignerPlugin.Yaml
