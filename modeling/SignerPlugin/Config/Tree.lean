import SignerPlugin.Json
import SignerPlugin.Numeric.Binary64
import SignerPlugin.Text.CodePoint

/-! Configuration trees: what a configuration file says, whichever language it is written in.
The keys of a mapping are trees too, and no two of them are the same. -/

namespace SignerPlugin.Config

open Numeric
open Text (CodeText)

/-- A configuration tree. `decimal m e` is the number m · 10 ^ e. -/
inductive Tree
  | null
  | bool (value : Bool)
  | int (value : Int)
  | decimal (mantissa exponent : Int)
  | nan
  | infinite (negative : Bool)
  | text (value : CodeText)
  | bytes (value : Bytes)
  /-- A value that no setting can have, such as a date. -/
  | other (label : String)
  | list (items : List Tree)
  | map (entries : List (Tree × Tree))
  /-- A container again that this place lies inside of. -/
  | endless
  deriving Repr, BEq, Inhabited

namespace Tree

abbrev Entries := List (Tree × Tree)

/-- The tree of a binary number, written out in decimal notation. -/
def ofBinary : Binary64 → Tree
  | .nan => .nan
  | .infinite negative => .infinite negative
  | .finite mantissa exponent =>
    if 0 ≤ exponent then .decimal (mantissa * Nat.pow 2 exponent.toNat) 0
    else .decimal (mantissa * Nat.pow 5 (-exponent).toNat) exponent

/-- The whole number that a key counts as. -/
def whole? : Tree → Option Int
  | .bool value => some (if value then 1 else 0)
  | .int value => some value
  | .decimal mantissa exponent => (Binary64.ofDecimal mantissa exponent).toInt?
  | _ => none

/-- Whether two trees are the same key: numbers are if they are equal, however they are written. -/
def sameKey (a b : Tree) : Bool :=
  match a.whole?, b.whole? with
  | some m, some n => m = n
  | none, none => match a, b with
    | .decimal m e, .decimal n f => Binary64.ofDecimal m e = Binary64.ofDecimal n f
    | a, b => a == b
  | _, _ => false

/-- The entries with one more: a key that is there already keeps its place and gets the new
value. -/
def put {β : Type} (entries : List (Tree × β)) (key : Tree) (value : β) : List (Tree × β) :=
  match entries with
  | [] => [(key, value)]
  | entry :: rest =>
    if sameKey entry.1 key then (entry.1, value) :: rest else entry :: put rest key value

/-- The value of a text key. -/
def find? (entries : Entries) (name : String) : Option Tree :=
  (entries.find? fun entry => entry.1 == .text (.ofString name)).map (·.2)

mutual

/-- The tree that a JSON tree is. -/
def ofJson {τ : Type} (codes : τ → CodeText) : JsonTree τ → Tree
  | .null => .null
  | .bool value => .bool value
  | .int value => .int value
  | .decimal mantissa exponent => .decimal mantissa exponent
  | .nan => .nan
  | .infinite negative => .infinite negative
  | .str value => .text (codes value)
  | .arr items => .list (ofItems codes items)
  | .obj members => .map (ofMembers codes [] members)

private def ofItems {τ : Type} (codes : τ → CodeText) : List (JsonTree τ) → List Tree
  | [] => []
  | item :: rest => ofJson codes item :: ofItems codes rest

/-- The entries found so far, followed by those of an object's members. -/
private def ofMembers {τ : Type} (codes : τ → CodeText) (entries : Entries) :
    List (τ × JsonTree τ) → Entries
  | [] => entries
  | (name, value) :: rest =>
    ofMembers codes (put entries (.text (codes name)) (ofJson codes value)) rest

end

/-- A tree as the readers of single settings see it: containers, dates and the like are all no value
that one could have. -/
def toScalar : Tree → Json
  | .null => .null
  | .bool value => .bool value
  | .int value => .int value
  | .decimal mantissa exponent => .decimal mantissa exponent
  | .nan => .nan
  | .infinite negative => .infinite negative
  | .text value => .str value.shown
  | .bytes value => .str ((Bytes.text? value).getD "\uFFFD")
  | .other _ | .list _ | .map _ | .endless => .arr []

end Tree
end SignerPlugin.Config
