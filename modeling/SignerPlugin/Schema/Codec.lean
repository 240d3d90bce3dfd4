import SignerPlugin.Json
import SignerPlugin.Schema.Checked

/-! Both directions between values and JSON trees. A record codec is put together member by
member, and each member is described once: its two spellings, where its value stands in the
record, what it is when it is left out, and the codec of its value. -/

namespace SignerPlugin.Schema

/-- How records are written. -/
structure Style where
  /-- Member names in camel case, or else in words joined by underscores. -/
  camel : Bool
  /-- Members without value are left out, or else written as null. -/
  sparse : Bool
  deriving DecidableEq, Repr

/-- Messages on the wire have camel case names and leave out what is not there. -/
def Style.wire : Style := ⟨true, true⟩

/-- The two spellings of a member's name. -/
structure MemberName where
  camel : String
  plain : String
  deriving DecidableEq, Repr

/-- The spelling that a style writes. -/
def MemberName.spelled (name : MemberName) (style : Style) : String :=
  if style.camel then name.camel else name.plain

/-- A name whose spellings agree. -/
def MemberName.same (name : String) : MemberName := ⟨name, name⟩

/-- A way to read values from trees and to write them. -/
structure Codec (α : Type) where
  read : Json → Checked α
  write : Style → α → Json

/-- A way to read and write some members of records `ρ`, whose values make up an `α`. -/
structure Members (ρ α : Type) where
  read : Json.Members → Checked α
  write : Style → ρ → Json.Members

/-- The value given for a member, with the spelling it was given under: the camel case spelling
counts before the other one. -/
def given? (name : MemberName) (members : Json.Members) : Option (String × Json) :=
  match members.find? name.camel with
  | some tree => some (name.camel, tree)
  | none => (members.find? name.plain).map fun tree => (name.plain, tree)

namespace Members

variable {ρ α β γ : Type}

/-- No members at all. -/
def none (value : α) : Members ρ α := ⟨fun _ => .ok value, fun _ _ => []⟩

/-- Some members, and then one more. -/
def and (first : Members ρ (α → β)) (next : Members ρ α) : Members ρ β :=
  ⟨fun members => (first.read members).both (next.read members),
    fun style record => first.write style record ++ next.write style record⟩

/-- A member that must be given. -/
def required (name : MemberName) (part : ρ → α) (codec : Codec α) : Members ρ α :=
  ⟨fun members => match given? name members with
    | some (spelling, tree) => (codec.read tree).within (.member spelling)
    | .none => .bad [⟨[.member name.camel], .missing⟩],
    fun style record => [(name.spelled style, codec.write style (part record))]⟩

/-- A member that has a value of its own when it is not given. -/
def defaulted (name : MemberName) (value : α) (part : ρ → α) (codec : Codec α) : Members ρ α :=
  ⟨fun members => match given? name members with
    | some (spelling, tree) => (codec.read tree).within (.member spelling)
    | .none => .ok value,
    fun style record => [(name.spelled style, codec.write style (part record))]⟩

/-- A member that may be missing or null. -/
def optional (name : MemberName) (part : ρ → Option α) (codec : Codec α) : Members ρ (Option α) :=
  ⟨fun members => match given? name members with
    | some (_, .null) => .ok .none
    | some (spelling, tree) => ((codec.read tree).map some).within (.member spelling)
    | .none => .ok .none,
    fun style record => match part record with
      | some value => [(name.spelled style, codec.write style value)]
      | .none => if style.sparse then [] else [(name.spelled style, .null)]⟩

end Members

namespace Codec

variable {α β : Type}

/-- A record from its members. Members with other names are ignored. -/
def record (members : Members α α) : Codec α :=
  ⟨fun tree => match tree with
    | .obj given => members.read given
    | _ => .fail .notAModel,
    fun style record => .obj (members.write style record)⟩

/-- Values of a narrower type: what is read is accepted or refused with a reason. -/
def refine (codec : Codec β) (accept : β → Except String α) (view : α → β) : Codec α :=
  ⟨fun tree => (codec.read tree).andThen fun draft => match accept draft with
    | .ok value => .ok value
    | .error reason => .fail (.refused (.ofString reason)),
    fun style value => codec.write style (view value)⟩

/-- Lists of values. -/
def list (codec : Codec α) : Codec (List α) :=
  ⟨fun tree => match tree with
    | .arr items => Checked.items codec.read 0 items
    | _ => .fail .notAList,
    fun style values => .arr (values.map (codec.write style))⟩

end Codec
end SignerPlugin.Schema
