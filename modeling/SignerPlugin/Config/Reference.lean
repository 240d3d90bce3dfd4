import SignerPlugin.Text.CodePoint

/-! References to variables of the environment inside texts: `$`, and between braces a name and
perhaps, after `:-`, a fallback. Text that is put in for a reference is not looked at again. -/

namespace SignerPlugin.Config

open Text (CodePoint CodeText)

/-- The variables that are set. -/
abbrev Environment := String → Option String

/-- A reference to a variable, with the text to use when it is not set. -/
structure Reference where
  name : String
  fallback : Option CodeText
  deriving DecidableEq, Repr

/-- A variable is not set, and there is no fallback for it. -/
structure UnsetVariable where
  name : String
  deriving DecidableEq, Repr

def UnsetVariable.message (fault : UnsetVariable) : String :=
  "Environment variable " ++ fault.name ++ " not set"

namespace Reference

/-- Names consist of basic letters, digits and underscores. -/
def isNameChar : CodePoint → Bool
  | .char c => c.isAlphanum || c = '_'
  | .surrogate _ => false

def isDigit : CodePoint → Bool
  | .char c => c.isDigit
  | .surrogate _ => false

/-- The end of a reference, from after its name on: its fallback, and the text behind it. -/
def readEnd? : CodeText → Option (Option CodeText × CodeText)
  | .char '}' :: rest => some (none, rest)
  | .char ':' :: .char '-' :: rest => match rest.dropWhile (· ≠ .char '}') with
    | _ :: after => some (some (rest.takeWhile (· ≠ .char '}')), after)
    | [] => none
  | _ => none

/-- The reference that a text begins with, and the text behind it. A name starts with no digit. -/
def read? : CodeText → Option (Reference × CodeText)
  | .char '$' :: .char '{' :: rest =>
    let name := rest.takeWhile isNameChar
    if name.isEmpty || name.head?.any isDigit then none
    else (readEnd? (rest.dropWhile isNameChar)).map fun (fallback, after) =>
      (⟨CodeText.shown name, fallback⟩, after)
  | _ => none

private theorem readEnd?_length {text after : CodeText} {fallback : Option CodeText}
    (found : readEnd? text = some (fallback, after)) : after.length < text.length := by
  unfold readEnd? at found
  split at found
  · simp only [Option.some.injEq, Prod.mk.injEq] at found
    simp [found.2]
  · rename_i rest
    split at found
    · rename_i c behind split
      simp only [Option.some.injEq, Prod.mk.injEq] at found
      have shorter := (List.dropWhile_sublist (· ≠ CodePoint.char '}') (l := rest)).length_le
      rw [split] at shorter
      simp only [List.length_cons, ← found.2] at shorter ⊢
      omega
    · cases found
  · cases found

private theorem read?_length {text after : CodeText} {reference : Reference}
    (found : read? text = some (reference, after)) : after.length < text.length := by
  unfold read? at found
  split at found
  · rename_i rest
    dsimp only at found
    split at found
    · cases found
    · obtain ⟨⟨fallback, behind⟩, ending, same⟩ := Option.map_eq_some_iff.1 found
      cases same
      have shorter := readEnd?_length ending
      have inside := (List.dropWhile_sublist isNameChar (l := rest)).length_le
      simp only [List.length_cons]
      omega
  · cases found

/-- The text that stands for a reference. -/
def value (env : Environment) (reference : Reference) : Except UnsetVariable CodeText :=
  match ((env reference.name).map CodeText.ofString).or reference.fallback with
  | some text => .ok text
  | none => .error ⟨reference.name⟩

end Reference

/-- A piece of a text: a code point of its own, or a reference. -/
inductive Piece
  | plain (point : CodePoint)
  | reference (wanted : Reference)
  deriving DecidableEq, Repr

namespace Piece

/-- The pieces of a text. What looks like a reference but is none is taken point by point. -/
def ofText (text : CodeText) : List Piece :=
  match text with
  | [] => []
  | point :: rest =>
    match _found : Reference.read? (point :: rest) with
    | some (found, after) => .reference found :: ofText after
    | none => .plain point :: ofText rest
  termination_by text.length
  decreasing_by
    · exact Reference.read?_length _found
    · simp

/-- The text that a piece stands for. -/
def expand (env : Environment) : Piece → Except UnsetVariable CodeText
  | .plain point => .ok [point]
  | .reference wanted => wanted.value env

end Piece

/-- The text with all its references replaced. The first one that names nothing makes it fail. -/
def expandText (env : Environment) (text : CodeText) : Except UnsetVariable CodeText := do
  let parts ← (Piece.ofText text).mapM (Piece.expand env)
  return parts.flatten

end SignerPlugin.Config
