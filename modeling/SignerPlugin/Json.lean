import SignerPlugin.Bytes

/-! JSON trees. The members of an object keep their order and their repetitions, and a number
keeps the digits it was written with, so that a tree says all that its text says except blanks
and escapes. -/

namespace SignerPlugin

/-- A JSON tree with texts of a kind. `decimal m e` is the number m · 10 ^ e, written with a
fraction or an exponent. -/
inductive JsonTree (τ : Type)
  | null
  | bool (value : Bool)
  | int (value : Int)
  | decimal (mantissa exponent : Int)
  | nan
  | infinite (negative : Bool)
  | str (text : τ)
  | arr (items : List (JsonTree τ))
  | obj (members : List (τ × JsonTree τ))
  deriving Repr, BEq, Inhabited

/-- A JSON tree whose texts are strings. -/
abbrev Json := JsonTree String

namespace Json

/-- The members of an object, in the order of the text. -/
abbrev Members := List (String × Json)

/-- The member that a name stands for: of several with one name, the last. -/
def Members.find? (members : Members) (name : String) : Option Json :=
  members.foldl (fun found member => if member.1 = name then some member.2 else found) none

/-- The members that do not have the name. -/
def Members.without (members : Members) (name : String) : Members :=
  members.filter (·.1 ≠ name)

theorem Members.find?_append (front back : Members) (name : String) :
    Members.find? (front ++ back) name = (Members.find? back name).or
      (Members.find? front name) := by
  have keep : ∀ (members : Members) (found : Option Json),
      members.foldl (fun found member => if member.1 = name then some member.2 else found) found =
        (Members.find? members name).or found := by
    intro members
    induction members with
    | nil => intro found; simp [Members.find?]
    | cons head rest ih =>
      intro found
      simp only [Members.find?, List.foldl_cons]
      rw [ih, ih (if head.1 = name then some head.2 else none)]
      by_cases same : head.1 = name <;> simp [same]
  unfold Members.find?
  rw [List.foldl_append, keep back]
  rfl

end Json
end SignerPlugin
