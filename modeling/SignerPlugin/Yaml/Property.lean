import SignerPlugin.Bytes
import SignerPlugin.Json.Reader
import SignerPlugin.Yaml.Character
import SignerPlugin.Yaml.Token

/-! Names, tags and directives. Each reader takes the input from behind its indicator on and
gives what it read with the input behind that. -/

namespace SignerPlugin.Yaml.Property

/-- The name of an anchor. -/
def readName (input : List Char) : Except Fault (String × List Char) :=
  let name := input.takeWhile isNameChar
  let rest := input.dropWhile isNameChar
  if name.isEmpty then .error .malformed
  else if endsWord rest || rest.head?.any fun c =>
    ['?', ':', ',', ']', '}', '%', '@', '\x60'].contains c then
    .ok (String.ofList name, rest)
  else .error .malformed

/-- The characters of tags; a percent sign escapes a byte. -/
def isTagChar (c : Char) : Bool :=
  c.isAlphanum || ['-', ';', '/', '?', ':', '@', '&', '=', '+', '$', ',', '_', '.', '!', '~',
    '*', '\'', '(', ')', '[', ']'].contains c

/-- The bytes of the escapes that the input goes on with. The fuel bounds their number. -/
def readBytes : (fuel : Nat) → List Char → Except Fault (Bytes × List Char)
  | fuel + 1, '%' :: a :: b :: rest =>
    match Json.hexValue? a, Json.hexValue? b with
    | some a, some b =>
      (readBytes fuel rest).map fun (bytes, rest) => (UInt8.ofNat (a * 16 + b) :: bytes, rest)
    | _, _ => .error .malformed
  | _, '%' :: _ => .error .malformed
  | _, input => .ok ([], input)

/-- The characters of a tag. The fuel bounds the number of stretches with and without escapes. -/
def readTagChars : (fuel : Nat) → List Char → Except Fault (List Char × List Char)
  | 0, _ => .error .malformed
  | fuel + 1, input =>
    let text := input.takeWhile isTagChar
    match input.dropWhile isTagChar with
    | '%' :: rest => do
      let (bytes, rest) ← readBytes (rest.length + 1) ('%' :: rest)
      match Bytes.text? bytes with
      | some escaped =>
        (readTagChars fuel rest).map fun (more, rest) => (text ++ escaped.toList ++ more, rest)
      | none => .error .malformed
    | rest => .ok (text, rest)

/-- The end of a tag behind its handle, or what a handle stands for. -/
def readTagText (input : List Char) : Except Fault (String × List Char) := do
  if input.head?.any fun c => isTagChar c || c = '%' then
    let (text, rest) ← readTagChars (input.length + 1) input
    return (String.ofList text, rest)
  else .error .malformed

/-- A handle: an exclamation mark, or a name between two of them. -/
def readHandle : List Char → Except Fault (String × List Char)
  | '!' :: rest =>
    if rest.head? = some ' ' then .ok ("!", rest)
    else match rest.dropWhile isNameChar with
      | '!' :: after => .ok (String.ofList ('!' :: rest.takeWhile isNameChar ++ ['!']), after)
      | _ => .error .malformed
  | _ => .error .malformed

/-- The tag that the input begins with, its exclamation mark included. -/
def readTag (input : List Char) : Except Fault (Token × List Char) := do
  let (token, rest) ← match input.drop 1 with
    | '<' :: rest => do
      match ← readTagText rest with
      | (text, '>' :: rest) => pure (Token.tag none text, rest)
      | _ => throw .malformed
    | rest =>
      if endsWord rest then pure (Token.tag none "!", rest)
      else if (rest.takeWhile fun c => c ≠ ' ' && !isBreak c).contains '!' then do
        let (handle, rest) ← readHandle input
        let (text, rest) ← readTagText rest
        pure (Token.tag (some handle) text, rest)
      else do
        let (text, rest) ← readTagText rest
        pure (Token.tag (some "!") text, rest)
  if endsWordWithoutTab rest then return (token, rest) else throw .malformed

/-- A number in a directive. -/
def readNumber (input : List Char) : Except Fault (Nat × List Char) :=
  let digits := input.takeWhile Char.isDigit
  if digits.isEmpty then .error .malformed
  else if Json.maxDigits < digits.length then .error (.longInteger digits.length)
  else .ok (Json.digitsValue digits, input.dropWhile Char.isDigit)

/-- The version that a document is written in. -/
def readVersion (input : List Char) : Except Fault (Directive × List Char) := do
  match ← readNumber (input.dropWhile (· = ' ')) with
  | (major, '.' :: rest) =>
    let (_, rest) ← readNumber rest
    if endsWordWithoutTab rest then return (.version major, rest) else throw .malformed
  | _ => throw .malformed

/-- A handle and what it stands for. -/
def readTagDirective (input : List Char) : Except Fault (Directive × List Char) := do
  match ← readHandle (input.dropWhile (· = ' ')) with
  | (handle, ' ' :: rest) =>
    let (lead, rest) ← readTagText (rest.dropWhile (· = ' '))
    if endsWordWithoutTab rest then return (.handle handle lead, rest) else throw .malformed
  | _ => throw .malformed

/-- The directive behind a percent sign, and the input from the next line on. -/
def readDirective (input : List Char) : Except Fault (Directive × List Char) := do
  let name := input.takeWhile isNameChar
  let rest := input.dropWhile isNameChar
  if name.isEmpty || !endsWordWithoutTab rest then throw .malformed
  let (directive, rest) ←
    if name = "YAML".toList then readVersion rest
    else if name = "TAG".toList then readTagDirective rest
    else pure (Directive.reserved, rest.dropWhile fun c => !isBreak c)
  match nextLine? rest with
  | some rest => return (directive, rest)
  | none => throw .malformed

end SignerPlugin.Yaml.Property
