import SignerPlugin.Json

/-! The compact text of a JSON tree: no blanks, members in their order, and only those characters
escaped that must be. -/

namespace SignerPlugin.Json

def hexDigit (n : Nat) : Char := Char.ofNat (if n < 10 then 48 + n else 87 + n)

/-- How a character stands inside a string: quotes, backslashes and control characters are escaped,
with the short escape where there is one. -/
def escape (c : Char) : List Char :=
  if c = '"' then ['\\', '"']
  else if c = '\\' then ['\\', '\\']
  else if c = '\x08' then ['\\', 'b']
  else if c = '\x0c' then ['\\', 'f']
  else if c = '\n' then ['\\', 'n']
  else if c = '\r' then ['\\', 'r']
  else if c = '\t' then ['\\', 't']
  else if c.toNat < 32 then ['\\', 'u', '0', '0', hexDigit (c.toNat / 16), hexDigit (c.toNat % 16)]
  else [c]

/-- A string between quotes. -/
def quote (text : String) : List Char :=
  '"' :: (text.toList.flatMap escape ++ ['"'])

mutual

/-- The characters of a tree. -/
def chars : Json → List Char
  | .null => ['n', 'u', 'l', 'l']
  | .bool true => ['t', 'r', 'u', 'e']
  | .bool false => ['f', 'a', 'l', 's', 'e']
  | .int value => (toString value).toList
  | .decimal mantissa exponent => (toString mantissa).toList ++ 'e' :: (toString exponent).toList
  | .nan => ['N', 'a', 'N']
  | .infinite negative => if negative then "-Infinity".toList else "Infinity".toList
  | .str text => quote text
  | .arr [] => ['[', ']']
  | .arr (item :: items) => '[' :: (chars item ++ itemChars items)
  | .obj [] => ['{', '}']
  | .obj ((name, value) :: members) =>
    '{' :: (quote name ++ ':' :: (chars value ++ memberChars members))

/-- The items after the first, with the bracket that closes them. -/
def itemChars : List Json → List Char
  | [] => [']']
  | item :: items => ',' :: (chars item ++ itemChars items)

/-- The members after the first, with the brace that closes them. -/
def memberChars : List (String × Json) → List Char
  | [] => ['}']
  | (name, value) :: members =>
    ',' :: (quote name ++ ':' :: (chars value ++ memberChars members))

end

/-- The compact text of a tree. -/
def render (tree : Json) : String := String.ofList (chars tree)

/-- The compact text of a tree as UTF-8. -/
def encode (tree : Json) : Bytes := Bytes.ofText (render tree)

end SignerPlugin.Json
