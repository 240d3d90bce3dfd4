import SignerPlugin.Script.Letters

/-! The language of scripts: words with expansions in them, redirections, and statements. -/

namespace SignerPlugin.Script

/-- What is made of the value of a parameter. -/
inductive Use
  | value
  | length
  /-- A word stands in for a value that is missing; or one that is empty, too. -/
  | fallback (orEmpty : Bool)
  /-- The same, and the parameter gets the value of the word. -/
  | assign (orEmpty : Bool)
  /-- A script cannot go on without the value. -/
  | demand (orEmpty : Bool)
  /-- A word stands in for a value that is there. -/
  | replace (orEmpty : Bool)
  /-- What matches a pattern is cut off, at the end or the beginning, as much or as little as
  can be. -/
  | cut (atEnd longest : Bool)
  | invalid
  deriving DecidableEq, Repr

/-- How a redirection opens its file. -/
inductive Opening
  | read
  | write
  | append
  | readWrite
  /-- The channel becomes the same as another one. -/
  | duplicate
  deriving DecidableEq, Repr

mutual

/-- A piece of a word. -/
inductive Piece
  | text (letters : Letters) (quoted : Bool)
  | parameter (name : Letters) (use : Use) (word : List Piece) (quoted : Bool)
  /-- What statements put out. -/
  | output (body : Statement) (quoted : Bool)
  /-- The value of an arithmetic expression. -/
  | sum (expression : List Piece) (quoted : Bool)

inductive Redirect
  | file (channel : Nat) (opening : Opening) (target : List Piece)
  /-- The document with a number is the input. -/
  | document (channel : Nat) (number : Nat)

inductive Statement
  | simple (assignments : List (Letters × List Piece)) (words : List (List Piece))
      (redirects : List Redirect)
  | sequence (body : List Statement)
  | pipeline (stages : List Statement)
  | negation (body : Statement)
  | both (first second : Statement)
  | either (first second : Statement)
  | background (body : Statement)
  | redirected (body : Statement) (redirects : List Redirect)
  | subshell (body : Statement)
  | branch (test body otherwise : Statement)
  /-- Repeats the body as long as the test succeeds; or fails, if `negated`. -/
  | loop (negated : Bool) (test body : Statement)
  /-- Runs the body for each word; or each argument, if no words are given. -/
  | each (name : Letters) (words : Option (List (List Piece))) (body : Statement)
  | choice (word : List Piece) (cases : List (List (List Piece) × Statement))
  | definition (name : Letters) (body : Statement)

end

abbrev Word := List Piece

/-- The statement that does nothing. -/
def Statement.nothing : Statement := .sequence []

/-- A script as far as it could be read: statements by lines, and the numbered texts that
stand in it as documents. -/
structure Program where
  lines : List Statement := []
  documents : List (Nat × Word) := []
  /-- Whether something that is no statement stands behind them. -/
  broken : Bool := false

end SignerPlugin.Script
