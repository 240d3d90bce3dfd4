import SignerPlugin.Base64
import SignerPlugin.Text.Blank

/-! Data in texts, between a line that begins a section and one that ends it. The first section of a
text counts; what stands outside of sections is passed over. -/

namespace SignerPlugin.Pem

/-- A section: the label of both its lines, the fields of its head, and its data. -/
structure Section where
  label : String
  head : List (String × String)
  data : Bytes
  deriving DecidableEq, Repr

/-- The field of the head with a name: of several the last. -/
def Section.field? (found : Section) (name : String) : Option String :=
  (found.head.reverse.find? (·.1 = name)).map (·.2)

/-- What stands before a mark, and what stands after it. `due` are the bytes of the mark that
are still to come; when another byte comes, all are due again behind that, so that a mark that
begins within a broken one is missed. -/
def cutFrom? (mark : Bytes) : (due : Bytes) → Bytes → Option (Bytes × Bytes)
  | [], text => some ([], text)
  | _, [] => none
  | next :: due, byte :: text =>
    (if byte = next then cutFrom? mark due text else cutFrom? mark mark text).map
      fun (before, after) =>
      (byte :: before, after)

/-- What stands before the first place where a mark stands, and what stands after the mark. -/
def cut? (mark text : Bytes) : Option (Bytes × Bytes) :=
  (cutFrom? mark mark text).map fun (before, after) =>
    (before.take (before.length - mark.length), after)

def isGap (byte : UInt8) : Bool := byte = 32 || byte = 9 || byte = 10 || byte = 13

/-- The characters of the lines of a text. -/
def lines (text : List Char) : List (List Char) := text.splitOn '\n'

def trimEnd (line : List Char) : List Char := (line.reverse.dropWhile Text.isBlank).reverse

/-- A section whose parts are not yet looked at. -/
structure Draft where
  beginLabel : Bytes
  body : Bytes
  endLabel : Bytes

/-- The first section of a text, and the text after it. -/
def draft? (text : Bytes) : Option (Draft × Bytes) := do
  let (_, text) ← cut? (Bytes.ofText "-----BEGIN ") text
  let (beginLabel, text) ← cut? (Bytes.ofText "-----") text
  let (body, text) ← cut? (Bytes.ofText "-----END ") (text.dropWhile isGap)
  let (endLabel, text) ← cut? (Bytes.ofText "-----") text
  return (⟨beginLabel, body, endLabel⟩, text.dropWhile isGap)

/-- The head and the data of a body: an empty line parts them. -/
def partBody (body : Bytes) : Bytes × Bytes :=
  match cut? [10, 10] body with
  | some parts => parts
  | none => (cut? [13, 10, 13, 10] body).getD ([], body)

/-- The name and the value in a line of a head, with a colon between them. -/
def fieldOf? (line : List Char) : Option (String × String) :=
  match line.dropWhile (· ≠ ':') with
  | [] => none
  | _ :: value =>
    some (String.ofList (Text.trim (line.takeWhile (· ≠ ':'))), String.ofList (Text.trim value))

/-- The section that a draft makes: its labels agree, every line of its head is a name and a
value, and its data are base64 with blanks anywhere. -/
def Draft.section? (draft : Draft) : Option Section := do
  let label ← Bytes.text? draft.beginLabel
  guard (label ≠ "" ∧ draft.endLabel = draft.beginLabel)
  let (head, data) := partBody draft.body
  let head ← Bytes.text? head
  let data ← Bytes.text? data
  let head ← (((lines head.toList).map trimEnd).filter (· ≠ [])).mapM fieldOf?
  let data ← Base64.decodeCanonical? (data.toList.filter fun c => !Text.isBlank c)
  return ⟨label, head, data⟩

/-- The first section of a text. -/
def first? (text : Bytes) : Option Section := (draft? text).bind fun (draft, _) => draft.section?

/-- The sections of a text, one after the other; `fuel` bounds their number. -/
def drafts : (fuel : Nat) → Bytes → List Draft
  | 0, _ => []
  | fuel + 1, text => match draft? text with
    | some (draft, rest) => draft :: drafts fuel rest
    | none => []

/-- All sections of a text, if none of them is damaged. -/
def all? (text : Bytes) : Option (List Section) :=
  (drafts text.length text).mapM Draft.section?

/-- The characters in lines of 64; `fuel` bounds their number. -/
def wrap : (fuel : Nat) → List Char → List Char
  | 0, _ => []
  | fuel + 1, chars =>
    if chars.isEmpty then [] else chars.take 64 ++ '\n' :: wrap fuel (chars.drop 64)

/-- The text of a section. -/
def write (label : String) (data : Bytes) : String :=
  let chars := Base64.encodeChars data
  "-----BEGIN " ++ label ++ "-----\n" ++ String.ofList (wrap chars.length chars) ++
    "-----END " ++ label ++ "-----\n"

end SignerPlugin.Pem
