import Mathlib.Data.List.Nodup
import Mathlib.Data.List.Pairwise
import Mathlib.Logic.Relation
import SignerPlugin.Proofs.EnvelopeShape

/-! What decoding sees of a tree: at each place where a message or a part of one is read, the
members with the names of its fields, and of these the one that counts. Trees that differ in
nothing else are decoded alike. -/

namespace SignerPlugin

open Message Schema

namespace Json.Members

variable {members others front back : Members} {name other : String} {tree : Json}

theorem find?_between (front back : Members) (name other : String) (tree : Json) :
    find? (front ++ (name, tree) :: back) other =
      (find? back other).or (if name = other then some tree else find? front other) := by
  rw [List.append_cons, find?_append, find?_concat]

theorem mem_of_find? (found : find? members name = some tree) : (name, tree) ∈ members := by
  induction members using List.reverseRecOn with
  | nil => cases found
  | append_singleton members member ih =>
    obtain ⟨shown, value⟩ := member
    rw [find?_concat] at found
    split at found
    · rename_i same
      cases same
      cases found
      exact List.mem_append_right _ (List.mem_singleton_self _)
    · exact List.mem_append_left _ (ih found)

theorem find?_eq_none_iff : find? members name = none ↔ name ∉ members.map Prod.fst := by
  constructor
  · intro absent listed
    induction members using List.reverseRecOn with
    | nil => cases listed
    | append_singleton members member ih =>
      obtain ⟨shown, value⟩ := member
      rw [find?_concat] at absent
      split at absent
      · cases absent
      · rename_i different
        rw [List.map_append, List.mem_append] at listed
        rcases listed with earlier | last
        · exact ih absent earlier
        · exact different (List.mem_singleton.mp last).symm
  · intro unlisted
    exact find?_eq_none fun member listed same => unlisted (same ▸ List.mem_map_of_mem listed)

private theorem find?_without_self (members : Members) (name : String) :
    find? (members.without name) name = none :=
  find?_eq_none fun member listed => by simpa using (List.mem_filter.mp listed).2

/-- The order makes no difference where no name stands twice. -/
theorem find?_perm (distinct : (members.map Prod.fst).Nodup) (order : members.Perm others)
    (name : String) :
    find? others name = find? members name := by
  cases found : find? members name with
  | none =>
    rw [find?_eq_none_iff] at found ⊢
    exact fun listed => found ((order.map Prod.fst).mem_iff.mpr listed)
  | some tree =>
    cases found' : find? others name with
    | none =>
      rw [find?_eq_none_iff] at found'
      exact absurd ((order.map Prod.fst).mem_iff.mp (List.mem_map_of_mem (mem_of_find? found)))
        found'
    | some other =>
      have same : (name, other) = (name, tree) :=
        List.inj_on_of_nodup_map distinct (order.mem_iff.mpr (mem_of_find? found'))
          (mem_of_find? found) rfl
      rw [(Prod.mk.inj same).2]

theorem filled?_eq_of_find? (same : find? members name = find? others other) :
    members.filled? name = others.filled? other := by
  rw [filled?, filled?, same]

theorem filled?_of_null (null : find? members name = some .null) : members.filled? name = none := by
  rw [filled?, null]

theorem filled?_of_absent (absent : find? members name = none) : members.filled? name = none := by
  rw [filled?, absent]

theorem filled?_of_some (found : find? members name = some tree) (filled : tree ≠ .null) :
    members.filled? name = some tree := by
  rw [filled?, found]
  cases tree with
  | null => exact absurd rfl filled
  | _ => rfl

end Json.Members

namespace Schema

/-- The tree that counts for a name. For lenient names a null gives way to the other spelling. -/
def counted? (lenient : List MemberName) (name : MemberName) (members : Json.Members) :
    Option Json :=
  if name ∈ lenient then (members.filled? name.camel).or (members.filled? name.plain)
  else (members.find? name.camel).or (members.find? name.plain)

/-- Changes of the members of an object after which the same counts for each of the names:
another order of distinct names; one more member, if it has an unknown name, or another one of
its name comes later, or the camel case spelling of its name is there already and does not
give way; one member in the other spelling, if none has that yet, unless it was the last of
several members of its name; and no member in camel case that gives way. -/
inductive Touched (names lenient : List MemberName) : Json.Members → Json.Members → Prop
  | reordered {members others : Json.Members} (distinct : (members.map Prod.fst).Nodup)
      (order : members.Perm others) :
      Touched names lenient members others
  | stranger {front back : Json.Members} {name : String} {tree : Json}
      (unknown : ∀ known ∈ names, name ≠ known.camel ∧ name ≠ known.plain) :
      Touched names lenient (front ++ back) (front ++ (name, tree) :: back)
  | repeated {front back : Json.Members} {name : String} {tree : Json}
      (later : name ∈ back.map Prod.fst) :
      Touched names lenient (front ++ back) (front ++ (name, tree) :: back)
  | overruled {front back : Json.Members} {name : MemberName} {tree decisive : Json}
      (known : name ∈ names) (spellings : name.camel ≠ name.plain)
      (found : Json.Members.find? (front ++ back) name.camel = some decisive)
      (stays : name ∈ lenient → decisive ≠ .null) :
      Touched names lenient (front ++ back) (front ++ (name.plain, tree) :: back)
  | respelled {front back : Json.Members} {name : MemberName} {tree : Json} (known : name ∈ names)
      (free : name.plain ∉ (front ++ back).map Prod.fst)
      (notLast : name.camel ∉ (front ++ back).map Prod.fst ∨
        ∃ decisive, back.find? name.camel = some decisive ∧ (name ∈ lenient → decisive ≠ .null)) :
      Touched names lenient (front ++ (name.camel, tree) :: back)
        (front ++ (name.plain, tree) :: back)
  | yielded {members : Json.Members} {name : MemberName} (known : name ∈ lenient)
      (null : Json.Members.find? members name.camel = some .null) :
      Touched names lenient members (members.without name.camel)

section Counted

variable {lenient names : List MemberName} {name known : MemberName}
  {members others front back : Json.Members}

theorem given?_tree (name : MemberName) (members : Json.Members) :
    (given? name members).map Prod.snd = counted? [] name members := by
  simp only [given?, counted?, List.not_mem_nil, if_false]
  cases members.find? name.camel with
  | some tree => rfl
  | none => cases members.find? name.plain <;> rfl

theorem counted?_eq_of_find? (camel : members.find? name.camel = others.find? name.camel)
    (plain : members.find? name.plain = others.find? name.plain) :
    counted? lenient name members = counted? lenient name others := by
  simp only [counted?, camel, plain, Json.Members.filled?_eq_of_find? camel,
    Json.Members.filled?_eq_of_find? plain]

/-- Where the camel case spelling decides, the other one may say anything. -/
theorem counted?_overruled {tree decisive : Json} (spellings : name.camel ≠ name.plain)
    (found : Json.Members.find? (front ++ back) name.camel = some decisive)
    (stays : name ∈ lenient → decisive ≠ .null) :
    counted? lenient name (front ++ (name.plain, tree) :: back) =
      counted? lenient name (front ++ back) := by
  have kept : Json.Members.find? (front ++ (name.plain, tree) :: back) name.camel =
      some decisive := by
    rw [← found, Json.Members.find?_between, if_neg (Ne.symm spellings), Json.Members.find?_append]
  unfold counted?
  split
  · rename_i known
    rw [Json.Members.filled?_of_some kept (stays known),
      Json.Members.filled?_of_some found (stays known), Option.some_or, Option.some_or]
  · rw [kept, found, Option.some_or, Option.some_or]

/-- In front of a member of its name, a member counts for nothing. -/
theorem find?_repeated {shown : String} {tree : Json} (later : shown ∈ back.map Prod.fst)
    (other : String) :
    Json.Members.find? (front ++ (shown, tree) :: back) other =
      Json.Members.find? (front ++ back) other := by
  rw [Json.Members.find?_between, Json.Members.find?_append]
  by_cases own : shown = other
  · subst own
    obtain ⟨found, known⟩ :=
      Option.ne_none_iff_exists'.mp (mt Json.Members.find?_eq_none_iff.mp (not_not.mpr later))
    rw [known, Option.some_or, Option.some_or]
  · rw [if_neg own]

/-- The only member of a name counts in the other spelling as it did in camel case. -/
private theorem counted?_respelled {tree : Json} (free : name.plain ∉ (front ++ back).map Prod.fst)
    (alone : name.camel ∉ (front ++ back).map Prod.fst) :
    counted? lenient name (front ++ (name.plain, tree) :: back) =
      counted? lenient name (front ++ (name.camel, tree) :: back) := by
  by_cases same : name.camel = name.plain
  · rw [same]
  · rw [List.map_append, List.mem_append, not_or] at free alone
    have found (spelling : String) (absent : spelling ∉ back.map Prod.fst) :
        Json.Members.find? (front ++ (spelling, tree) :: back) spelling = some tree := by
      rw [Json.Members.find?_between, Json.Members.find?_eq_none_iff.mpr absent, if_pos rfl,
        Option.none_or]
    have gone (spelling other : String) (different : spelling ≠ other)
        (before : other ∉ front.map Prod.fst)
        (behind : other ∉ back.map Prod.fst) :
        Json.Members.find? (front ++ (spelling, tree) :: back) other = none := by
      rw [Json.Members.find?_between, if_neg different, Json.Members.find?_eq_none_iff.mpr before,
        Json.Members.find?_eq_none_iff.mpr behind, Option.none_or]
    have noCamel := gone name.plain name.camel (Ne.symm same) alone.1 alone.2
    have noPlain := gone name.camel name.plain same free.1 free.2
    have moved := (found name.plain free.2).trans (found name.camel alone.2).symm
    simp only [counted?, noCamel, noPlain, moved, Json.Members.filled?_of_absent noCamel,
      Json.Members.filled?_of_absent noPlain, Json.Members.filled?_eq_of_find? moved,
      Option.none_or, Option.or_none]

/-- In front of a member of its name that decides, a member counts for nothing in either
spelling. -/
private theorem counted?_respelled_early {tree decisive : Json}
    (found : back.find? name.camel = some decisive) (stays : name ∈ lenient → decisive ≠ .null) :
    counted? lenient name (front ++ (name.plain, tree) :: back) =
      counted? lenient name (front ++ (name.camel, tree) :: back) := by
  by_cases same : name.camel = name.plain
  · rw [same]
  · have later : name.camel ∈ back.map Prod.fst :=
      List.mem_map_of_mem (Json.Members.mem_of_find? found)
    have decides : Json.Members.find? (front ++ back) name.camel = some decisive := by
      rw [Json.Members.find?_append, found, Option.some_or]
    rw [counted?_overruled same decides stays]
    exact (counted?_eq_of_find? (find?_repeated later _) (find?_repeated later _)).symm

/-- A null that gives way counts as little as if it were not there. -/
private theorem counted?_yielded (known : name ∈ lenient)
    (null : members.find? name.camel = some .null) :
    counted? lenient name (members.without name.camel) = counted? lenient name members := by
  have gone := Json.Members.filled?_of_absent (members.find?_without_self name.camel)
  have nothing := Json.Members.filled?_of_null null
  rw [counted?, counted?, if_pos known, if_pos known, gone, nothing, Option.none_or, Option.none_or]
  by_cases same : name.camel = name.plain
  · rw [← same, gone, nothing]
  · exact Json.Members.filled?_eq_of_find? (members.find?_without same)

instance : Std.Symm MemberName.Apart := ⟨fun _ _ => MemberName.Apart.symm⟩

theorem apart_of_mem (apart : names.Pairwise MemberName.Apart) (first : name ∈ names)
    (second : known ∈ names) (different : name ≠ known) : name.Apart known :=
  apart.forall first second different

/-- The changes are made so that the same counts for each of the names. -/
theorem Touched.counted? (touched : Touched names lenient members others)
    (apart : names.Pairwise MemberName.Apart) (among : lenient ⊆ names) (member : name ∈ names) :
    Schema.counted? lenient name others = Schema.counted? lenient name members := by
  cases touched with
  | reordered distinct order =>
    exact counted?_eq_of_find? (Json.Members.find?_perm distinct order _)
      (Json.Members.find?_perm distinct order _)
  | stranger unknown =>
    obtain ⟨camel, plain⟩ := unknown name member
    apply counted?_eq_of_find?
    · rw [Json.Members.find?_between, if_neg camel, Json.Members.find?_append]
    · rw [Json.Members.find?_between, if_neg plain, Json.Members.find?_append]
  | repeated later => exact counted?_eq_of_find? (find?_repeated later _) (find?_repeated later _)
  | @overruled front back known tree decisive listed spellings found stays =>
    by_cases own : name = known
    · subst own
      exact counted?_overruled spellings found stays
    · obtain ⟨-, camel, -, plain⟩ := apart_of_mem apart member listed own
      apply counted?_eq_of_find?
      · rw [Json.Members.find?_between, if_neg (Ne.symm camel), Json.Members.find?_append]
      · rw [Json.Members.find?_between, if_neg (Ne.symm plain), Json.Members.find?_append]
  | @respelled front back known tree listed free notLast =>
    by_cases own : name = known
    · subst own
      rcases notLast with alone | ⟨decisive, found, stays⟩
      · exact counted?_respelled free alone
      · exact counted?_respelled_early found stays
    · obtain ⟨camels, camel, plain, plains⟩ := apart_of_mem apart member listed own
      apply counted?_eq_of_find?
      · rw [Json.Members.find?_between, Json.Members.find?_between, if_neg (Ne.symm camel),
          if_neg (Ne.symm camels)]
      · rw [Json.Members.find?_between, Json.Members.find?_between, if_neg (Ne.symm plains),
          if_neg (Ne.symm plain)]
  | @yielded _ known listed null =>
    by_cases own : name = known
    · subst own
      exact counted?_yielded listed null
    · obtain ⟨camels, -, plain, -⟩ := apart_of_mem apart member (among listed) own
      exact counted?_eq_of_find? (members.find?_without (Ne.symm camels))
        (members.find?_without (Ne.symm plain))

end Counted

/-- What is looked at in a tree: nothing in particular, or the members of an object with the
names of its fields, and in each of them what is looked at there. Among the names some may be
lenient. -/
inductive Shape
  | value
  | record (fields : List (MemberName × Shape)) (lenient : List MemberName)

namespace Shape

/-- Fields whose values are no records. -/
def scalars (names : List MemberName) : List (MemberName × Shape) :=
  names.map fun name => (name, .value)

/-- Changes of a tree at one place, at which a record is looked for. -/
inductive Edit : Shape → Json → Json → Prop
  | here {fields : List (MemberName × Shape)} {lenient : List MemberName}
      {members others : Json.Members}
      (touched : Touched (fields.map Prod.fst) lenient members others) :
      Edit (.record fields lenient) (.obj members) (.obj others)
  | inside {fields : List (MemberName × Shape)} {lenient : List MemberName}
      {field : MemberName × Shape} {front back : Json.Members} {name : String}
      {tree other : Json} (known : field ∈ fields) (spelled : name = field.1.camel ∨
      name = field.1.plain) (edit : Edit field.2 tree other) :
      Edit (.record fields lenient) (.obj (front ++ (name, tree) :: back))
        (.obj (front ++ (name, other) :: back))

/-- The same tree, or one that was changed at one place. -/
def Alike (shape : Shape) : Json → Json → Prop := Relation.ReflGen shape.Edit

variable {shape : Shape} {tree other : Json}

theorem Edit.objects (edit : shape.Edit tree other) :
    ∃ members others, tree = .obj members ∧ other = .obj others := by
  cases edit with
  | here touched => exact ⟨_, _, rfl, rfl⟩
  | inside known spelled edit => exact ⟨_, _, rfl, rfl⟩

/-- A null is like no other tree. -/
theorem Alike.null_iff (alike : shape.Alike tree other) : tree = .null ↔ other = .null := by
  cases alike with
  | refl => exact Iff.rfl
  | single edit =>
    obtain ⟨members, others, rfl, rfl⟩ := edit.objects
    simp

end Shape

section Alike

variable {shape : Shape} {first second third fourth : Option Json}

theorem rel_alike_refl (shape : Shape) (found : Option Json) :
    Option.Rel shape.Alike found found := by
  cases found with
  | none => exact .none
  | some tree => exact .some .refl

theorem rel_alike_isSome (alike : Option.Rel shape.Alike first second) :
    first.isSome = second.isSome := by
  cases alike <;> rfl

theorem rel_alike_or (left : Option.Rel shape.Alike first second)
    (right : Option.Rel shape.Alike third fourth) :
    Option.Rel shape.Alike (first.or third) (second.or fourth) := by
  cases left with
  | none => exact right
  | some alike => exact .some alike

theorem rel_alike_filled {members others : Json.Members} {name : String}
    (alike : Option.Rel shape.Alike (members.find? name) (others.find? name)) :
    Option.Rel shape.Alike (members.filled? name) (others.filled? name) := by
  cases found : members.find? name with
  | none =>
    rw [found] at alike
    cases found' : others.find? name with
    | none =>
      rw [Json.Members.filled?_of_absent found, Json.Members.filled?_of_absent found']
      exact .none
    | some other =>
      rw [found'] at alike
      cases alike
  | some tree =>
    rw [found] at alike
    cases found' : others.find? name with
    | none =>
      rw [found'] at alike
      cases alike
    | some other =>
      rw [found'] at alike
      obtain ⟨same⟩ := alike
      by_cases null : tree = .null
      · rw [Json.Members.filled?_of_null (null ▸ found),
          Json.Members.filled?_of_null (same.null_iff.mp null ▸ found')]
        exact .none
      · rw [Json.Members.filled?_of_some found null,
          Json.Members.filled?_of_some found' (mt same.null_iff.mpr null)]
        exact .some same

/-- After a change inside of a field, alike trees count for this field, and the same for each
other one. -/
theorem Shape.Edit.counted? {fields : List (MemberName × Shape)} {lenient : List MemberName}
    {members others : Json.Members}
    (edit : (Shape.record fields lenient).Edit (.obj members) (.obj others))
    (apart : (fields.map Prod.fst).Pairwise MemberName.Apart)
    (among : lenient ⊆ fields.map Prod.fst) {field : MemberName × Shape} (member : field ∈ fields) :
    Option.Rel field.2.Alike (Schema.counted? lenient field.1 members)
      (Schema.counted? lenient field.1 others) := by
  cases edit with
  | here touched =>
    rw [touched.counted? apart among (List.mem_map_of_mem member)]
    exact rel_alike_refl _ _
  | @inside _ _ edited front back name tree other known spelled edit =>
    have found (spelling : String) (owns : spelling = name → field = edited) :
        Option.Rel field.2.Alike (Json.Members.find? (front ++ (name, tree) :: back) spelling)
          (Json.Members.find? (front ++ (name, other) :: back) spelling) := by
      rw [Json.Members.find?_between, Json.Members.find?_between]
      refine rel_alike_or (rel_alike_refl _ _) ?_
      by_cases same : name = spelling
      · obtain rfl := owns same.symm
        rw [if_pos same, if_pos same]
        exact .some (.single edit)
      · rw [if_neg same, if_neg same]
        exact rel_alike_refl _ _
    have owns (spelling : String) (own : spelling = field.1.camel ∨ spelling = field.1.plain) :
        spelling = name → field = edited := by
      rintro rfl
      by_contra different
      obtain ⟨camels, camel, plain, plains⟩ :=
        (List.pairwise_map.mp apart).forall member known different
      rcases own with rfl | rfl <;> rcases spelled with same | same
      · exact camels same
      · exact camel same
      · exact plain same
      · exact plains same
    have camel := found field.1.camel (owns _ (.inl rfl))
    have plain := found field.1.plain (owns _ (.inr rfl))
    unfold Schema.counted?
    split
    · exact rel_alike_or (rel_alike_filled camel) (rel_alike_filled plain)
    · exact rel_alike_or camel plain

end Alike

variable {ρ α β : Type}

/-- What is read of trees that differ in one change is the same. -/
def Codec.Sees (codec : Codec α) (shape : Shape) : Prop :=
  ∀ ⦃tree other⦄, shape.Edit tree other → (codec.read tree).toOption = (codec.read other).toOption

theorem Codec.Sees.alike {codec : Codec α} {shape : Shape} (sees : codec.Sees shape)
    {tree other : Json} (alike : shape.Alike tree other) :
    (codec.read tree).toOption = (codec.read other).toOption := by
  cases alike with
  | refl => rfl
  | single edit => exact sees edit

theorem Codec.sees_value (codec : Codec α) : codec.Sees .value := nofun

/-- What is read of members depends on what counts for the fields, and of that on no change at
one place. -/
def Members.Sees (members : Members ρ α) (fields : List (MemberName × Shape)) : Prop :=
  ∀ ⦃given others : Json.Members⦄,
    (∀ field ∈ fields, Option.Rel field.2.Alike (counted? [] field.1 given)
      (counted? [] field.1 others)) →
    (members.read given).toOption = (members.read others).toOption

namespace Members

/-- What a member is read as, by the tree that counts for it. -/
theorem toOption_required {name : MemberName} {part : ρ → α} {codec : Codec α}
    (given : Json.Members) :
    ((required name part codec).read given).toOption =
      (counted? [] name given).bind fun tree => (codec.read tree).toOption := by
  rw [← given?_tree]
  simp only [required]
  cases given? name given with
  | none => rfl
  | some entry => exact Checked.toOption_within _ _

theorem toOption_defaulted {name : MemberName} {value : α} {part : ρ → α} {codec : Codec α}
    (given : Json.Members) :
    ((defaulted name value part codec).read given).toOption =
      ((counted? [] name given).elim (some value) fun tree => (codec.read tree).toOption) := by
  rw [← given?_tree]
  simp only [defaulted]
  cases given? name given with
  | none => rfl
  | some entry => exact Checked.toOption_within _ _

theorem toOption_optional {name : MemberName} {part : ρ → Option α} {codec : Codec α}
    (given : Json.Members) :
    ((optional name part codec).read given).toOption = match counted? [] name given with
      | some .null => some .none
      | some tree => (codec.read tree).toOption.map some
      | .none => some .none := by
  rw [← given?_tree]
  simp only [optional]
  cases given? name given with
  | none => rfl
  | some entry =>
    obtain ⟨spelling, tree⟩ := entry
    cases tree with
    | null => rfl
    | _ => exact (Checked.toOption_within _ _).trans (Checked.toOption_map _ _)

namespace Sees

variable {name : MemberName} {codec : Codec α} {shape : Shape}

theorem none {value : α} : (Members.none value : Members ρ α).Sees [] := fun _ _ _ => rfl

theorem and {first : Members ρ (α → β)} {next : Members ρ α}
    {front back : List (MemberName × Shape)} (left : first.Sees front)
    (right : next.Sees back) : (first.and next).Sees (front ++ back) := by
  intro given others alike
  have these := left fun field member => alike field (List.mem_append_left _ member)
  have those := right fun field member => alike field (List.mem_append_right _ member)
  simp only [Members.and, Checked.toOption_both, these, those]

theorem required {part : ρ → α} (sees : codec.Sees shape) :
    (Members.required name part codec).Sees [(name, shape)] := by
  intro given others alike
  have counts : Option.Rel shape.Alike (counted? [] name given) (counted? [] name others) :=
    alike (name, shape) (List.mem_singleton_self _)
  rw [toOption_required, toOption_required]
  generalize counted? [] name given = these at counts ⊢
  generalize counted? [] name others = those at counts ⊢
  cases counts with
  | none => rfl
  | some same => exact sees.alike same

theorem defaulted {value : α} {part : ρ → α} (sees : codec.Sees shape) :
    (Members.defaulted name value part codec).Sees [(name, shape)] := by
  intro given others alike
  have counts : Option.Rel shape.Alike (counted? [] name given) (counted? [] name others) :=
    alike (name, shape) (List.mem_singleton_self _)
  rw [toOption_defaulted, toOption_defaulted]
  generalize counted? [] name given = these at counts ⊢
  generalize counted? [] name others = those at counts ⊢
  cases counts with
  | none => rfl
  | some same => exact sees.alike same

theorem optional {part : ρ → Option α} (sees : codec.Sees shape) :
    (Members.optional name part codec).Sees [(name, shape)] := by
  intro given others alike
  have counts : Option.Rel shape.Alike (counted? [] name given) (counted? [] name others) :=
    alike (name, shape) (List.mem_singleton_self _)
  rw [toOption_optional, toOption_optional]
  generalize counted? [] name given = these at counts ⊢
  generalize counted? [] name others = those at counts ⊢
  cases counts with
  | none => rfl
  | some same =>
    cases same with
    | refl => rfl
    | single edit =>
      have read := sees edit
      obtain ⟨members, others, rfl, rfl⟩ := edit.objects
      simp only [read]

end Sees

end Members

namespace Codec.Sees

theorem record {members : Members α α} {fields : List (MemberName × Shape)}
    (sees : members.Sees fields) (apart : (fields.map Prod.fst).Pairwise MemberName.Apart) :
    (Codec.record members).Sees (.record fields []) := by
  intro tree other edit
  obtain ⟨given, others, rfl, rfl⟩ := edit.objects
  exact sees fun field member => edit.counted? apart (List.nil_subset _) member

theorem refine {codec : Codec α} {shape : Shape} {accept : α → Except String β} {view : β → α}
    (sees : codec.Sees shape) : (codec.refine accept view).Sees shape := by
  intro tree other edit
  rw [Codec.refine, Checked.toOption_andThen, Checked.toOption_andThen, sees edit]

end Codec.Sees

end Schema
end SignerPlugin
