import Mathlib.Data.List.Induction
import SignerPlugin.Proofs.RequestShape

/-! The two shapes of an envelope. The members of the method may stand beside the binding, or
in a member of their own; each part is found in both shapes, since no part looks at the
members that are not its own. -/

namespace SignerPlugin

open Message Schema

namespace Json.Members

/-- Leaving out a name does not touch the others. -/
theorem find?_without (members : Members) {left name : String} (other : left ≠ name) :
    find? (members.without left) name = find? members name := by
  induction members using List.reverseRecOn with
  | nil => rfl
  | append_singleton members member ih =>
    obtain ⟨shown, tree⟩ := member
    rw [without_concat, find?_concat]
    by_cases dropped : shown = left
    · subst dropped
      rw [if_pos rfl, List.append_nil, ih, if_neg other]
    · rw [if_neg dropped, find?_concat, ih]

/-- The tree that stands under a name, unless it is null. -/
def filled? (members : Members) (name : String) : Option Json :=
  match members.find? name with
  | some .null => none
  | found => found

theorem filled?_getD (members : Members) (name : String) :
    (members.filled? name).getD .null = (members.find? name).getD .null := by
  unfold filled?
  split
  · rename_i null
    rw [null]
    rfl
  · rfl

private theorem filled?_ne_null (members : Members) (name : String) :
    members.filled? name ≠ some .null := by
  unfold filled?
  split
  · nofun
  · assumption

end Json.Members

namespace Schema

private theorem given?_without {members : Json.Members} {left : String} {name : MemberName}
    (camel : left ≠ name.camel) (plain : left ≠ name.plain) :
    given? name (members.without left) = given? name members := by
  simp only [given?, Json.Members.find?_without members camel,
    Json.Members.find?_without members plain]

namespace Members

variable {ρ α β : Type}

/-- What is read depends on what is given for the names alone. -/
def ReadsOnly (members : Members ρ α) (names : List MemberName) : Prop :=
  ∀ ⦃first second : Json.Members⦄, (∀ name ∈ names, given? name first = given? name second) →
    members.read first = members.read second

namespace ReadsOnly

theorem none {value : α} : (Members.none value : Members ρ α).ReadsOnly [] := fun _ _ _ => rfl

theorem and {first : Members ρ (α → β)} {next : Members ρ α} {front back : List MemberName}
    (left : first.ReadsOnly front) (right : next.ReadsOnly back) :
    (first.and next).ReadsOnly (front ++ back) := by
  intro given other same
  have these := left fun name member => same name (List.mem_append_left _ member)
  have those := right fun name member => same name (List.mem_append_right _ member)
  simp only [Members.and, these, those]

theorem required {name : MemberName} {part : ρ → α} {codec : Codec α} :
    (Members.required name part codec).ReadsOnly [name] := by
  intro given other same
  simp only [Members.required, same name (List.mem_singleton_self name)]

theorem optional {name : MemberName} {part : ρ → Option α} {codec : Codec α} :
    (Members.optional name part codec).ReadsOnly [name] := by
  intro given other same
  simp only [Members.optional, same name (List.mem_singleton_self name)]

end ReadsOnly

end Members

namespace Form

variable {α : Type} {form : Form α}

/-- A text is decoded as the tree that it stands for. -/
theorem toOption_decode {text : Bytes} {tree : Json} (parsed : Json.parse? text = some tree) :
    (form.decode text).toOption = (form.ofTree tree).toOption := by
  simp only [decode, parsed, ofTree, toOption_conclude, Checked.toOption_mapCause]

end Form

end Schema

namespace Message

private theorem MethodDraft.members_readsOnly : MethodDraft.members.ReadsOnly memberNames :=
  .and (.and (.and (.and (.and (.and (.and .none .required) .optional) .optional) .optional)
    .optional) .optional)
    .optional

/-- A request is read without looking at members that are not its own. -/
theorem MethodArgs.read_without (members : Json.Members) {left : String}
    (other : ∀ name ∈ MethodDraft.memberNames, left ≠ name.camel ∧ left ≠ name.plain) :
    MethodArgs.codec.read (.obj (members.without left)) = MethodArgs.codec.read (.obj members) := by
  have same : MethodDraft.members.read (members.without left) = MethodDraft.members.read members :=
    MethodDraft.members_readsOnly fun name member =>
      given?_without (other name member).1 (other name member).2
  simp only [MethodArgs.codec, Codec.refine, MethodDraft.codec, Codec.record, same]

namespace PluginArgs

/-- The binding in a flat envelope. -/
def binding? (members : Json.Members) : Option Json :=
  (members.filled? bindingMember.camel).or (members.filled? bindingMember.plain)

/-- The members of the method in a flat envelope. -/
def methodPart (members : Json.Members) : Json.Members :=
  (members.without bindingMember.camel).without bindingMember.plain

/-- An envelope whose two parts are members of their own, in either spelling, has what these
are read as. -/
theorem nested_read_eq_ok (style : Style) {binding method : Json} {args : PluginArgs} :
    nested.read (.obj [(bindingMember.spelled style, binding),
      (argsMember.spelled style, method)]) = .ok args ↔
      InitOptions.codec.read binding = .ok args.initOptions ∧
        MethodArgs.codec.read method = .ok args.methodArgs := by
  let entries : List Entry := [(bindingMember, some binding), (argsMember, some method)]
  have apart : [bindingMember, argsMember].Pairwise MemberName.Apart := by decide
  have carried : ∀ entry ∈ entries, entry.Carried style (Entry.written style entries) :=
    Entry.carried_written apart
  have first : given? bindingMember (Entry.written style entries) =
      some (bindingMember.spelled style, binding) :=
    carried (bindingMember, some binding) (by simp [entries])
  have second : given? argsMember (Entry.written style entries) =
      some (argsMember.spelled style, method) :=
    carried (argsMember, some method) (by simp [entries])
  have written : [(bindingMember.spelled style, binding), (argsMember.spelled style, method)] =
      Entry.written style entries := rfl
  rw [written]
  simp only [nested, Codec.record_read_eq_ok, Members.and_read_eq_ok, Members.none_read_eq_ok,
    Members.required_read_eq_ok]
  constructor
  · rintro ⟨_, ⟨⟩, _, methodArgs, ⟨_, init, rfl, ⟨_, _, given, reads⟩, rfl⟩,
      ⟨_, _, given', reads'⟩, rfl⟩
    rw [first] at given
    rw [second] at given'
    cases given
    cases given'
    exact ⟨reads, reads'⟩
  · rintro ⟨reads, reads'⟩
    exact ⟨_, rfl, _, _, ⟨_, _, rfl, ⟨_, _, first, reads⟩, rfl⟩, ⟨_, _, second, reads'⟩, rfl⟩

/-- The binding and the members of the method are found in a flat envelope. -/
private theorem part_of_flat {members : Json.Members}
    (camel : members.find? argsMember.camel = none)
    (plain : members.find? argsMember.plain = none) :
    ∃ method, part members = [("init_options", (binding? members).getD .null),
      ("method_args", .obj method)] ∧
      MethodArgs.codec.read (.obj method) = MethodArgs.codec.read (.obj (methodPart members)) := by
  have stranger : ∀ name ∈ MethodDraft.memberNames, "init_options" ≠ name.camel ∧
      "init_options" ≠ name.plain := by decide
  have rest : (members.without "initOptions").find? "init_options" = members.find? "init_options" :=
    members.find?_without (by decide)
  simp only [argsMember] at camel plain
  unfold part
  rw [plain, camel, if_neg (by decide)]
  simp only [rest, ← Json.Members.filled?_getD]
  cases known : members.filled? "initOptions" with
  | none =>
    refine ⟨methodPart members, ?_, rfl⟩
    simp [binding?, methodPart, bindingMember, known]
  | some binding =>
    have filled : binding ≠ .null :=
      fun null => members.filled?_ne_null "initOptions" (null ▸ known)
    refine ⟨members.without "initOptions", ?_, (MethodArgs.read_without _ stranger).symm⟩
    simp [binding?, bindingMember, known]

/-- A flat envelope has what its binding and the members of its method are read as. A binding
that is missing is read as null is. -/
theorem flat_read_eq_ok {members : Json.Members} (camel : members.find? argsMember.camel = none)
    (plain : members.find? argsMember.plain = none) {args : PluginArgs} :
    codec.read (.obj members) = .ok args ↔
      InitOptions.codec.read ((binding? members).getD .null) = .ok args.initOptions ∧
        MethodArgs.codec.read (.obj (methodPart members)) = .ok args.methodArgs := by
  obtain ⟨method, parts, same⟩ := part_of_flat camel plain
  have read : codec.read (.obj members) =
      (nested.read (.obj (part members))).mapCause Cause.ofValue := rfl
  have plainly : [("init_options", (binding? members).getD .null),
      ("method_args", JsonTree.obj method)] =
      [(bindingMember.spelled ⟨false, false⟩, (binding? members).getD .null),
        (argsMember.spelled ⟨false, false⟩, .obj method)] := rfl
  rw [read, Checked.mapCause_eq_ok, parts, plainly, nested_read_eq_ok, same]

/-- The members have no name that an envelope gives a meaning of its own. -/
def Plain (members : Json.Members) : Prop :=
  ∀ member ∈ members, ∀ name ∈ [bindingMember, argsMember], member.1 ≠ name.camel ∧
    member.1 ≠ name.plain

section Flat

variable {front back : Json.Members} {binding : Json}

/-- The envelope in which the binding stands among the members of the method. -/
def flat (front : Json.Members) (binding : Json) (back : Json.Members) : Json.Members :=
  front ++ (bindingMember.camel, binding) :: back

/-- The envelope in which the members of the method are a member of their own. -/
def apart (binding : Json) (members : Json.Members) : Json.Members :=
  [(bindingMember.camel, binding), (argsMember.camel, .obj members)]

theorem Plain.find?_flat (plain : Plain (front ++ back)) {name : String}
    (known : ∃ member ∈ [bindingMember, argsMember], name = member.camel ∨ name = member.plain) :
    (flat front binding back).find? name = if bindingMember.camel =
      name then some binding else none := by
  have absent : ∀ member ∈ front ++ back, member.1 ≠ name := by
    intro member listed
    obtain ⟨other, among, rfl | rfl⟩ := known
    · exact (plain member listed other among).1
    · exact (plain member listed other among).2
  have before := Json.Members.find?_eq_none fun member listed =>
    absent member (List.mem_append_left _ listed)
  have after := Json.Members.find?_eq_none fun member listed =>
    absent member (List.mem_append_right _ listed)
  rw [flat, List.append_cons, Json.Members.find?_append, Json.Members.find?_concat, before,
    after, Option.none_or]

private theorem Plain.methodPart_flat (plain : Plain (front ++ back)) :
    methodPart (flat front binding back) = front ++ back := by
  have own : (flat front binding back).without bindingMember.camel =
      (front ++ back).without bindingMember.camel := by
    simp [flat, Json.Members.without, List.filter_append]
  rw [methodPart, own, Json.Members.without_eq_self
    fun member listed => (plain member listed _ (by simp)).1,
    Json.Members.without_eq_self
      fun member listed => (plain member listed bindingMember (by simp)).2]

private theorem Plain.binding?_flat (plain : Plain (front ++ back)) :
    (binding? (flat front binding back)).getD .null = binding := by
  have camel : (flat front binding back).find? bindingMember.camel = some binding :=
    (plain.find?_flat ⟨bindingMember, by simp, .inl rfl⟩).trans (if_pos rfl)
  have other : (flat front binding back).find? bindingMember.plain = none :=
    (plain.find?_flat ⟨bindingMember, by simp, .inr rfl⟩).trans (if_neg (by decide))
  have empty : (flat front binding back).filled? bindingMember.plain = none := by
    rw [Json.Members.filled?, other]
  rw [binding?, empty, Option.or_none, Json.Members.filled?_getD, camel]
  rfl

/-- The two shapes are read as the same envelope. -/
theorem Plain.flat_read_eq_ok (plain : Plain (front ++ back)) {args : PluginArgs} :
    codec.read (.obj (flat front binding back)) = .ok args ↔
      codec.read (.obj (apart binding (front ++ back))) = .ok args := by
  have camel : (flat front binding back).find? argsMember.camel = none :=
    (plain.find?_flat ⟨argsMember, by simp, .inl rfl⟩).trans (if_neg (by decide))
  have other : (flat front binding back).find? argsMember.plain = none :=
    (plain.find?_flat ⟨argsMember, by simp, .inr rfl⟩).trans (if_neg (by decide))
  have read : codec.read (.obj (apart binding (front ++ back))) =
      (nested.read (.obj [(bindingMember.spelled .wire, binding),
        (argsMember.spelled .wire, .obj (front ++ back))])).mapCause Cause.ofValue := rfl
  rw [PluginArgs.flat_read_eq_ok camel other, plain.binding?_flat, plain.methodPart_flat, read,
    Checked.mapCause_eq_ok, nested_read_eq_ok]

end Flat

/-- An envelope has one meaning in its two shapes. A text is decoded as the tree that it
stands for. An object without a member for the arguments of its method is an envelope exactly
if a binding is read from its own member, in the first spelling that is there and not null,
and a request from all the other members, and then it is made of these two. So it makes no
difference whether the members of a method stand beside the binding or in a member of their
own, as long as none of them has a name of the envelope. -/
theorem shapes_agree :
    (∀ (α : Type) (form : Form α) (text : Bytes) (tree : Json), Json.parse? text = some tree →
      (form.decode text).toOption = (form.ofTree tree).toOption) ∧
    (∀ members : Json.Members, members.find? argsMember.camel = none →
      members.find? argsMember.plain = none → ∀ args, form.ofTree (.obj members) = .ok args ↔
        (∃ binding, binding? members = some binding ∧
          InitOptions.form.ofTree binding = .ok args.initOptions) ∧
          MethodArgs.form.ofTree (.obj (methodPart members)) = .ok args.methodArgs) ∧
    ∀ (front : Json.Members) (binding : Json) (back : Json.Members), Plain (front ++ back) →
      (form.ofTree (.obj (flat front binding back))).toOption =
        (form.ofTree (.obj (apart binding (front ++ back)))).toOption := by
  refine ⟨fun _ _ _ _ parsed => Form.toOption_decode parsed, ?_, ?_⟩
  · intro members camel plain args
    simp only [Form.ofTree_eq_ok]
    have read : form.codec.read (.obj members) = .ok args ↔ _ := flat_read_eq_ok camel plain
    rw [read]
    refine and_congr_left fun _ => ?_
    cases binding? members with
    | none => simpa using (nofun : ¬ InitOptions.codec.read .null = .ok args.initOptions)
    | some binding => simp [InitOptions.form]
  · intro front binding back plain
    have same (args : PluginArgs) : form.ofTree (.obj (flat front binding back)) = .ok args ↔
        form.ofTree (.obj (apart binding (front ++ back))) = .ok args := by
      simp only [Form.ofTree_eq_ok]
      exact plain.flat_read_eq_ok
    cases nested : form.ofTree (.obj (apart binding (front ++ back))) with
    | ok args => rw [(same args).mpr nested]
    | error report =>
      cases beside : form.ofTree (.obj (flat front binding back)) with
      | ok args =>
        rw [(same args).mp beside] at nested
        cases nested
      | error other => rfl

/-- A null gives way to the other spelling, and members with other names are passed over in
both shapes. -/
theorem shapes_agree_defaultAlgorithm :
    let method : Json.Members :=
      [("createKey", .null), ("method_name", .str "defaultAlgorithm"), ("other", .arr []),
      ("defaultAlgorithm", .obj [("other", .null)])]
    let binding : Json := .obj [("hash_func", .int 7), ("key_resource_id", .str "key")]
    let envelope : PluginArgs :=
      ⟨{ keyResourceId := "key", hashFunc := .sha512 }, .defaultAlgorithm {}⟩
    form.ofTree (.obj (("initOptions", .null) :: ("init_options", binding) :: method)) =
      .ok envelope ∧
      (form.decode (Bytes.ofText (Json.render (.obj (flat [] binding method))))).toOption =
        (form.ofTree (.obj (apart binding method))).toOption := by
  intro method binding envelope
  obtain ⟨texts, parts, shapes⟩ := shapes_agree
  have plain : Plain ([] ++ method) := by
    simp [Plain, method, bindingMember, argsMember]
  have legible : Json.Legible true Json.wirePolicy.depth (.obj (flat [] binding method)) := by
    simp [Json.Legible, Json.wirePolicy, flat, binding, method]
    decide
  refine ⟨(parts _ rfl rfl envelope).mpr ⟨⟨binding, rfl, rfl⟩, rfl⟩, ?_⟩
  rw [texts _ form _ _ (Json.parse?_render legible)]
  exact shapes [] binding method plain

end PluginArgs
end Message
end SignerPlugin
