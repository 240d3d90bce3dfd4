import SignerPlugin.FileTree
import SignerPlugin.Script.Pattern

/-! The fields that an expanded word falls into, and the names of files that they stand for. -/

namespace SignerPlugin.Script

/-- A part of an expanded word. -/
inductive Glyph
  /-- A letter that stands in the script, or one that quotes protect. -/
  | letter (c : Char) (quoted : Bool)
  /-- A letter that an expansion has brought. -/
  | result (c : Char)
  /-- Where one argument ends and the next one begins. -/
  | edge
  /-- Quotes with nothing in them: a field is there even if it is empty. -/
  | presence
  deriving DecidableEq, Repr

namespace Glyph

/-- A text brought by an expansion. -/
def ofValue (quoted : Bool) (value : Letters) : List Glyph :=
  if quoted then if value.isEmpty then [.presence] else value.map (.letter · true)
  else value.map .result

/-- The letter of a glyph; a blank stands between arguments. -/
def mark? : Glyph → Option Mark
  | .letter c quoted => some ⟨c, quoted⟩
  | .result c => some ⟨c, false⟩
  | .edge => some ⟨' ', true⟩
  | .presence => none

/-- The letters of a word that does not fall into fields. -/
def marks (glyphs : List Glyph) : List Mark := glyphs.filterMap mark?

def text (glyphs : List Glyph) : Letters := (marks glyphs).map (·.letter)

/-- A letter that no quotes protect, as if an expansion had brought it. -/
def loosen : Glyph → Glyph
  | .letter c false => .result c
  | glyph => glyph

/-- The fields of glyphs, with separators between them: those that are blank count only once
in a row, and not at the ends. `field` has begun and is written backwards; `blank` tells that
blanks have ended the one before. -/
def fieldsFrom (separators : Letters) : (field : Option (List Mark)) → (blank : Bool) →
    List Glyph → List (List Mark)
  | none, _, [] => []
  | some field, _, [] => [field.reverse]
  | field, _, .letter c quoted :: rest =>
    fieldsFrom separators (some (⟨c, quoted⟩ :: field.getD [])) false rest
  | field, _, .presence :: rest => fieldsFrom separators (some (field.getD [])) false rest
  | some field, _, .edge :: rest => field.reverse :: fieldsFrom separators none true rest
  | none, blank, .edge :: rest => fieldsFrom separators none blank rest
  | field, blank, .result c :: rest =>
    if !separators.contains c then fieldsFrom separators
      (some (⟨c, false⟩ :: field.getD [])) false rest
    else if isBlank c || c = '\n' then
      match field with
      | some field => field.reverse :: fieldsFrom separators none true rest
      | none => fieldsFrom separators none blank rest
    else match field with
      | some field => field.reverse :: fieldsFrom separators none false rest
      | none =>
        if blank then fieldsFrom separators none false rest else [] ::
          fieldsFrom separators none false rest

def fields (separators : Letters) (glyphs : List Glyph) : List (List Mark) :=
  fieldsFrom separators none false glyphs

end Glyph

/-- The parts of a path between slashes. -/
def splitMarks (marks : List Mark) : List (List Mark) := marks.splitOnP (·.letter = '/')

/-- Whether a text comes before another one, letter by letter. -/
def isBefore : Letters → Letters → Bool
  | [], _ :: _ => true
  | _, [] => false
  | a :: as, b :: bs => if a = b then isBefore as bs else a.toNat < b.toNat

/-- The paths that parts lead to from a path on, in order. A name with a dot in front is only
meant by a pattern that has one, too. -/
def globFrom (files : FileTree) : (path : Letters) → List (List Mark) → List Letters
  | path, [] => [path]
  | path, part :: rest =>
    let pattern := Pattern.ofMarks (part.length + 1) part
    let further (name : Letters) : List Letters :=
      let next := path ++ name
      if rest.isEmpty then if files.has next.toPath then [next] else []
      else match files.place next.toPath with
        | .ok (.directory _) => globFrom files (next ++ ['/']) rest
        | _ => []
    if !pattern.isProper then further (part.map (·.letter))
    else match files.place path.toPath with
      | .ok (.directory location) =>
        let names :=
          (['.'] :: ['.', '.'] :: (files.children location).map Letters.ofText).filter fun name =>
          pattern.matchesAll name && (name.head? ≠ some '.' || pattern.head? = some (.letter '.'))
        (names.mergeSort fun a b => !isBefore b a).flatMap further
      | _ => []

/-- The texts that a field stands for: paths that it matches as a pattern, or else itself. -/
def glob (files : FileTree) (field : List Mark) : List Letters :=
  let isPattern := field.any fun mark => !mark.quoted && ['*', '?', '['].contains mark.letter
  let paths := if isPattern then globFrom files [] (splitMarks field) else []
  if paths.isEmpty then [field.map (·.letter)] else paths

end SignerPlugin.Script
