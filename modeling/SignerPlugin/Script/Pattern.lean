import SignerPlugin.Script.Letters

/-! Patterns for texts: a star stands for any letters, a question mark for one, and brackets
for one of a set. A letter that is quoted stands for itself. -/

namespace SignerPlugin.Script

/-- A letter of a word with what is known of its quoting. -/
structure Mark where
  letter : Char
  quoted : Bool
  deriving DecidableEq, Repr

/-- The classes of letters that have a name. -/
def classOf (name : Letters) (c : Char) : Bool :=
  match String.ofList name with
  | "alpha" => c.isAlpha
  | "digit" => c.isDigit
  | "alnum" => c.isAlphanum
  | "upper" => c.isUpper
  | "lower" => c.isLower
  | "space" => isSpace c
  | "blank" => isBlank c
  | "punct" => 32 < c.toNat && c.toNat < 127 && !c.isAlphanum
  | "print" => 32 ≤ c.toNat && c.toNat < 127
  | "graph" => 32 < c.toNat && c.toNat < 127
  | "cntrl" => c.toNat < 32 || c.toNat = 127
  | "xdigit" => c.isDigit || ('a' ≤ c && c ≤ 'f') || ('A' ≤ c && c ≤ 'F')
  | _ => false

/-- A member of a set of letters. -/
inductive Member
  | range (first last : Char)
  | named (name : Letters)
  deriving DecidableEq, Repr

def Member.has (c : Char) : Member → Bool
  | .range first last => first ≤ c && c ≤ last
  | .named name => classOf name c

inductive Pattern.Atom
  | letter (c : Char)
  | one
  | many
  | set (negated : Bool) (members : List Member)
  deriving DecidableEq, Repr

abbrev Pattern := List Pattern.Atom

namespace Pattern

/-- The name of a class in brackets and colons, and what is left behind it. -/
def className? (text : List Mark) : Option (Letters × List Mark) :=
  match text with
  | ⟨'[', false⟩ :: ⟨':', false⟩ :: rest =>
    let name := (rest.map (·.letter)).takeWhile Char.isLower
    match rest.drop name.length with
    | ⟨':', _⟩ :: ⟨']', _⟩ :: left => some (name, left)
    | _ => none
  | _ => none

/-- The members of a set up to its closing bracket, which does not count where the set begins. -/
def members? : (fuel : Nat) → (first : Bool) → List Mark → Option (List Member × List Mark)
  | 0, _, _ | _, _, [] => none
  | fuel + 1, first, mark :: rest =>
    if mark = ⟨']', false⟩ && !first then some ([], rest)
    else match className? (mark :: rest) with
      | some (name, left) => do
        let (members, left) ← members? fuel false left
        return (.named name :: members, left)
      | none =>
        let (member, left) := match rest with
          | ⟨'-', false⟩ :: last :: left =>
            if last = ⟨']', false⟩ then (Member.range mark.letter mark.letter, rest)
            else (.range mark.letter last.letter, left)
          | _ => (.range mark.letter mark.letter, rest)
        do
          let (members, left) ← members? fuel false left
          return (member :: members, left)

/-- The pattern that letters write. The fuel bounds their number. -/
def ofMarks : (fuel : Nat) → List Mark → Pattern
  | 0, _ | _, [] => []
  | fuel + 1, mark :: rest =>
    if mark.quoted then .letter mark.letter :: ofMarks fuel rest
    else match mark.letter with
      | '*' => .many :: ofMarks fuel rest
      | '?' => .one :: ofMarks fuel rest
      | '\\' => match rest with
        | next :: rest => .letter next.letter :: ofMarks fuel rest
        | [] => [.letter '\\']
      | '[' =>
        let (negated, inner) := match rest with
          | ⟨'!', false⟩ :: inner => (true, inner)
          | inner => (false, inner)
        match members? (inner.length + 1) true inner with
        | some (members, left) => .set negated members :: ofMarks fuel left
        | none => .letter '[' :: ofMarks fuel rest
      | c => .letter c :: ofMarks fuel rest

/-- What can be left of texts once an atom has taken its share; the longest comes first. -/
def step (texts : List Letters) : Atom → List Letters
  | .many => match texts with
    | [] => []
    | longest :: _ => Letters.endings longest
  | .letter c => texts.filterMap fun
    | d :: rest => if c = d then some rest else none
    | [] => none
  | .one => texts.filterMap fun
    | _ :: rest => some rest
    | [] => none
  | .set negated members => texts.filterMap fun
    | d :: rest => if members.any (·.has d) != negated then some rest else none
    | [] => none

/-- What can be left of a text behind a part that matches, the longest first. -/
def remainders (pattern : Pattern) (text : Letters) : List Letters := pattern.foldl step [text]

def matchesAll (pattern : Pattern) (text : Letters) : Bool :=
  (pattern.remainders text).any (·.isEmpty)

/-- The text without what matches at its beginning. -/
def cutStart (pattern : Pattern) (longest : Bool) (text : Letters) : Letters :=
  let left := pattern.remainders text
  ((if longest then left.getLast? else left.head?)).getD text

/-- The text without what matches at its end. -/
def cutEnd (pattern : Pattern) (longest : Bool) (text : Letters) : Letters :=
  let ends := (Letters.endings text).filter pattern.matchesAll
  match if longest then ends.head? else ends.getLast? with
  | some ending => text.take (text.length - ending.length)
  | none => text

/-- Whether the letters have anything in them that is not just a letter. -/
def isProper (pattern : Pattern) : Bool :=
  pattern.any fun
    | .letter _ => false
    | _ => true

end Pattern
end SignerPlugin.Script
