import SignerPlugin.Proofs.JsonText
import SignerPlugin.Schema.Form

/-! Laws of codecs. A codec restores a value when it reads it back from what each style writes
of it. The law lifts from values to records: what a record writes for a member is found again
under the member's name, as long as the names of the record are apart. -/

namespace SignerPlugin

namespace Json.Members

theorem find?_eq_none {members : Members} {name : String}
    (absent : ∀ member ∈ members, member.1 ≠ name) :
    find? members name = none := by
  induction members with
  | nil => rfl
  | cons member members ih =>
    have rest := ih fun other listed => absent other (by simp [listed])
    have first := absent member (by simp)
    have split := find?_append [member] members name
    rw [List.singleton_append] at split
    rw [split, rest, Option.none_or]
    simp [find?, first]

theorem without_eq_self {members : Members} {name : String}
    (absent : ∀ member ∈ members, member.1 ≠ name) :
    without members name = members :=
  List.filter_eq_self.mpr fun member listed => by simpa using absent member listed

theorem find?_concat (members : Members) (name other : String) (tree : Json) :
    find? (members ++ [(name, tree)]) other = if name =
      other then some tree else find? members other := by
  rw [find?_append]
  by_cases same : name = other <;> simp [find?, same]

theorem without_concat (members : Members) (name other : String) (tree : Json) :
    without (members ++ [(name, tree)]) other =
      without members other ++ if name = other then [] else [(name, tree)] := by
  rw [without, List.filter_append]
  by_cases same : name = other <;> simp [same, without]

end Json.Members

namespace Schema

namespace Checked

variable {α β : Type}

theorem both_eq_ok {f : Checked (α → β)} {x : Checked α} {result : β} :
    f.both x = .ok result ↔ ∃ g value, f = .ok g ∧ x = .ok value ∧ g value = result := by
  cases f <;> cases x <;> simp [both]

theorem within_eq_ok {step : Step} {x : Checked α} {value : α} :
    x.within step = .ok value ↔ x = .ok value := by
  cases x <;> simp [within]

theorem mapCause_eq_ok {f : Cause → Cause} {x : Checked α} {value : α} :
    x.mapCause f = .ok value ↔ x = .ok value := by
  cases x <;> simp [mapCause]

theorem map_eq_ok {f : α → β} {x : Checked α} {result : β} :
    x.map f = .ok result ↔ ∃ value, x = .ok value ∧ f value = result := by
  cases x <;> simp [map]

theorem andThen_eq_ok {f : α → Checked β} {x : Checked α} {result : β} :
    x.andThen f = .ok result ↔ ∃ value, x = .ok value ∧ f value = .ok result := by
  cases x <;> simp [andThen]

theorem toOption_eq_some {x : Checked α} {value : α} : x.toOption = some value ↔ x = .ok value := by
  cases x <;> simp [toOption]

theorem toOption_both (f : Checked (α → β)) (x : Checked α) :
    (f.both x).toOption = f.toOption.bind fun g => x.toOption.map g := by
  cases f <;> cases x <;> rfl

theorem toOption_within (step : Step) (x : Checked α) : (x.within step).toOption = x.toOption := by
  cases x <;> rfl

theorem toOption_mapCause (f : Cause → Cause) (x : Checked α) :
    (x.mapCause f).toOption = x.toOption := by
  cases x <;> rfl

theorem toOption_map (f : α → β) (x : Checked α) : (x.map f).toOption = x.toOption.map f := by
  cases x <;> rfl

theorem toOption_andThen (x : Checked α) (f : α → Checked β) :
    (x.andThen f).toOption = x.toOption.bind fun value => (f value).toOption := by
  cases x <;> rfl

private theorem items_map {check : α → Checked β} {view : β → α} {values : List β} (index : Nat)
    (passed : ∀ value ∈ values, check (view value) = .ok value) :
    items check index (values.map view) = .ok values := by
  induction values generalizing index with
  | nil => rfl
  | cons value values ih =>
    rw [List.map_cons, items, passed value (by simp),
      ih _ fun x member => passed x (by simp [member])]
    rfl

end Checked

/-- Names of which no spelling is shared. -/
def MemberName.Apart (a b : MemberName) : Prop :=
  a.camel ≠ b.camel ∧ a.camel ≠ b.plain ∧ a.plain ≠ b.camel ∧ a.plain ≠ b.plain

instance (a b : MemberName) : Decidable (a.Apart b) := by
  unfold MemberName.Apart
  infer_instance

theorem MemberName.Apart.spelled {a b : MemberName} (apart : a.Apart b) (style : Style) :
    b.spelled style ≠ a.camel ∧ b.spelled style ≠ a.plain := by
  obtain ⟨camels, camel_plain, plain_camel, plains⟩ := apart
  unfold MemberName.spelled
  split
  · exact ⟨camels.symm, plain_camel.symm⟩
  · exact ⟨camel_plain.symm, plains.symm⟩

theorem MemberName.Apart.symm {a b : MemberName} (apart : a.Apart b) : b.Apart a :=
  ⟨apart.1.symm, apart.2.2.1.symm, apart.2.1.symm, apart.2.2.2.symm⟩

/-- What a record holds for a member: a tree, or nothing to be written. -/
abbrev Entry := MemberName × Option Json

/-- The members that entries are written as. -/
def Entry.written (style : Style) (entries : List Entry) : Json.Members :=
  entries.filterMap fun entry => entry.2.map fun tree => (entry.1.spelled style, tree)

theorem Entry.spelled_of_written {style : Style} {entries : List Entry} {member : String × Json}
    (found : member ∈ written style entries) :
    ∃ entry ∈ entries, member.1 = entry.1.spelled style := by
  obtain ⟨entry, listed, same⟩ := List.mem_filterMap.mp found
  obtain ⟨tree, _, rfl⟩ := Option.map_eq_some_iff.mp same
  exact ⟨entry, listed, rfl⟩

/-- Members give for a name exactly what an entry says. -/
def Entry.Carried (style : Style) (members : Json.Members) (entry : Entry) : Prop :=
  given? entry.1 members = entry.2.map fun tree => (entry.1.spelled style, tree)

theorem given?_cons_of_apart {name other : MemberName} {style : Style} {members : Json.Members}
    {tree : Json} (apart : name.Apart other) :
    given? name ((other.spelled style, tree) :: members) = given? name members := by
  obtain ⟨noCamel, noPlain⟩ := apart.spelled style
  have skip (spelling : String) (other' : other.spelled style ≠ spelling) :
      Json.Members.find? ((other.spelled style, tree) :: members) spelling =
        Json.Members.find? members spelling := by
    simp [Json.Members.find?, other']
  simp only [given?, skip _ noCamel, skip _ noPlain]

private theorem given?_of_apart {name : MemberName} {style : Style} {entries : List Entry}
    (apart : ∀ entry ∈ entries, name.Apart entry.1) :
    given? name (Entry.written style entries) = none := by
  induction entries with
  | nil => rfl
  | cons entry entries ih =>
    obtain ⟨other, tree⟩ := entry
    have rest := ih fun entry member => apart entry (by simp [member])
    cases tree with
    | none => exact rest
    | some tree => exact (given?_cons_of_apart (apart _ (by simp))).trans rest

private theorem given?_single (name : MemberName) (style : Style) (tree : Json)
    {members : Json.Members} (absent : given? name members = none) :
    given? name ((name.spelled style, tree) :: members) = some (name.spelled style, tree) := by
  have pieces : members.find? name.camel = none ∧ members.find? name.plain = none := by
    unfold given? at absent
    split at absent
    · cases absent
    · rename_i noCamel
      exact ⟨noCamel, by simpa using absent⟩
  obtain ⟨noCamel, noPlain⟩ := pieces
  have split (spelling : String) :=
    Json.Members.find?_append [(name.spelled style, tree)] members spelling
  simp only [List.singleton_append] at split
  unfold given?
  rw [split, split, noCamel, noPlain]
  unfold MemberName.spelled
  by_cases camel : style.camel <;> by_cases same : name.plain = name.camel <;>
    simp [Json.Members.find?, camel, same]

/-- What entries with names apart are written as gives back each of them. -/
theorem Entry.carried_written {style : Style} {entries : List Entry}
    (apart : (entries.map Prod.fst).Pairwise MemberName.Apart) :
    ∀ entry ∈ entries, entry.Carried style (written style entries) := by
  induction entries with
  | nil => simp
  | cons first entries ih =>
    rw [List.map_cons, List.pairwise_cons] at apart
    obtain ⟨name, tree⟩ := first
    have others : ∀ entry ∈ entries, name.Apart entry.1 := by
      intro entry member
      exact apart.1 entry.1 (List.mem_map_of_mem member)
    have absent : given? name (written style entries) = none := given?_of_apart others
    intro entry member
    rcases List.mem_cons.mp member with rfl | later
    · cases tree with
      | none => exact absent
      | some tree => exact given?_single name style tree absent
    · have kept := ih apart.2 entry later
      cases tree with
      | none => exact kept
      | some tree => exact (given?_cons_of_apart (others entry later).symm).trans kept

namespace Codec

variable {α : Type}

/-- What is written of a value is never null; it is read as the value received, or refused if
there is none. -/
def Sends (codec : Codec α) (value : α) (received : Option α) : Prop :=
  ∀ style, codec.write style value ≠ .null ∧
    (codec.read (codec.write style value)).toOption = received

/-- A value is read back from what is written of it, which is never null. -/
def Restores (codec : Codec α) (value : α) : Prop :=
  ∀ style, codec.write style value ≠ .null ∧ codec.read (codec.write style value) = .ok value

theorem sends_some {codec : Codec α} {value : α} : codec.Sends value (some value) ↔
    codec.Restores value := by
  simp only [Sends, Restores, Checked.toOption_eq_some]

theorem Sends.restores {codec : Codec α} {value : α} {received : Option α}
    (sends : codec.Sends value received) (same : received = some value) : codec.Restores value :=
  sends_some.mp (same ▸ sends)

/-- Every value that is read has the property. -/
def Yields (codec : Codec α) (property : α → Prop) : Prop :=
  ∀ ⦃tree value⦄, codec.read tree = .ok value → property value

end Codec

namespace Members

variable {ρ α β : Type}

theorem and_read_eq_ok {first : Members ρ (α → β)} {next : Members ρ α} {given : Json.Members}
    {result : β} :
    (first.and next).read given = .ok result ↔
      ∃ f value, first.read given = .ok f ∧ next.read given = .ok value ∧ f value = result :=
  Checked.both_eq_ok

theorem none_read_eq_ok {value : α} {given : Json.Members} {result : α} :
    (none value : Members ρ α).read given = .ok result ↔ value = result := by
  simp [none]

/-- The members write a record as entries with the names; from any members that carry these
entries, they read the value received, or nothing. -/
def Conveys (members : Members ρ α) (names : List MemberName) (record : ρ)
    (received : Option α) : Prop :=
  ∀ style, ∃ entries : List Entry, entries.map Prod.fst = names ∧
    members.write style record = Entry.written style entries ∧
    ∀ given, (∀ entry ∈ entries, entry.Carried style given) →
      (members.read given).toOption = received

namespace Conveys

variable {record : ρ}

theorem none {value : α} : Conveys (Members.none value) [] record (some value) :=
  fun _ => ⟨[], rfl, rfl, fun _ _ => rfl⟩

theorem and {first : Members ρ (α → β)} {next : Members ρ α} {front back : List MemberName}
    {f : Option (α → β)} {value : Option α} (left : first.Conveys front record f)
    (right : next.Conveys back record value) :
    (first.and next).Conveys (front ++ back) record (f.bind fun g => value.map g) := by
  intro style
  obtain ⟨these, same, writes, reads⟩ := left style
  obtain ⟨those, same', writes', reads'⟩ := right style
  refine ⟨these ++ those, by rw [List.map_append, same, same'], ?_, ?_⟩
  · simp only [Members.and, writes, writes', Entry.written, List.filterMap_append]
  · intro given carried
    have first := reads given fun entry member => carried entry (List.mem_append_left _ member)
    have second := reads' given fun entry member => carried entry (List.mem_append_right _ member)
    rw [Members.and, Checked.toOption_both, first, second]

/-- Members that are one entry convey what is read of that entry. -/
theorem single {members : Members ρ α} {name : MemberName} {received : Option α}
    (tree : Style → Option Json)
    (writes : ∀ style, members.write style record = Entry.written style [(name, tree style)])
    (reads : ∀ style given, given? name given =
    (tree style).map (fun tree => (name.spelled style, tree)) →
      (members.read given).toOption = received) : members.Conveys [name] record received := by
  intro style
  refine ⟨[(name, tree style)], rfl, writes style, fun given carried => ?_⟩
  exact reads style given (carried _ (List.mem_singleton_self _))

theorem required {name : MemberName} {part : ρ → α} {codec : Codec α} {received : Option α}
    (sends : codec.Sends (part record) received) :
    (Members.required name part codec).Conveys [name] record received := by
  refine .single (fun style => some (codec.write style (part record))) (fun _ => rfl) ?_
  intro style given found
  simp only [Members.required, found, Option.map_some]
  rw [Checked.toOption_within, (sends style).2]

theorem defaulted {name : MemberName} {value : α} {part : ρ → α} {codec : Codec α}
    {received : Option α} (sends : codec.Sends (part record) received) :
    (Members.defaulted name value part codec).Conveys [name] record received := by
  refine .single (fun style => some (codec.write style (part record))) (fun _ => rfl) ?_
  intro style given found
  simp only [Members.defaulted, found, Option.map_some]
  rw [Checked.toOption_within, (sends style).2]

theorem optional {name : MemberName} {part : ρ → Option α} {codec : Codec α}
    {received? : α → Option α}
    (sends : ∀ value ∈ part record, codec.Sends value (received? value)) :
    (Members.optional name part codec).Conveys [name] record ((part record).mapM received?) := by
  cases known : part record with
  | some value =>
    refine .single (fun style => some (codec.write style value)) (fun style => ?_) ?_
    · simp only [Members.optional, known]
      rfl
    · intro style given found
      obtain ⟨notNull, read⟩ := sends value known style
      simp only [Members.optional, found, Option.map_some]
      rw [Checked.toOption_within, Checked.toOption_map, read]
      rfl
  | none =>
    refine .single (fun style => if style.sparse then .none else some .null) (fun style => ?_) ?_
    · by_cases sparse : style.sparse <;> simp [Members.optional, known, sparse, Entry.written]
    · intro style given found
      by_cases sparse : style.sparse <;> simp [Members.optional, found, sparse, Checked.toOption]

end Conveys

/-- The members write a record as entries with the names, and read the value from any members
that carry these entries. -/
def Faithful (members : Members ρ α) (names : List MemberName) (record : ρ) (value : α) : Prop :=
  members.Conveys names record (some value)

namespace Faithful

variable {record : ρ}

theorem none {value : α} : Faithful (Members.none value) [] record value := Conveys.none

theorem and {first : Members ρ (α → β)} {next : Members ρ α} {front back : List MemberName}
    {f : α → β} {value : α} (left : first.Faithful front record f)
    (right : next.Faithful back record value) :
    (first.and next).Faithful (front ++ back) record (f value) :=
  Conveys.and left right

theorem required {name : MemberName} {part : ρ → α} {codec : Codec α}
    (restores : codec.Restores (part record)) :
    (Members.required name part codec).Faithful [name] record (part record) :=
  Conveys.required (Codec.sends_some.mpr restores)

theorem defaulted {name : MemberName} {value : α} {part : ρ → α} {codec : Codec α}
    (restores : codec.Restores (part record)) :
    (Members.defaulted name value part codec).Faithful [name] record (part record) :=
  Conveys.defaulted (Codec.sends_some.mpr restores)

theorem optional {name : MemberName} {part : ρ → Option α} {codec : Codec α}
    (restores : ∀ value ∈ part record, codec.Restores value) :
    (Members.optional name part codec).Faithful [name] record (part record) := by
  have kept : (part record).mapM some = some (part record) := by cases part record <;> rfl
  rw [Faithful, ← kept]
  exact Conveys.optional fun value known => Codec.sends_some.mpr (restores value known)

end Faithful

theorem required_yields {name : MemberName} {part : ρ → α} {codec : Codec α} {property : α → Prop}
    (yields : codec.Yields property) {given : Json.Members} {value : α}
    (read : (required name part codec).read given = .ok value) : property value := by
  simp only [required] at read
  split at read
  · exact yields (Checked.within_eq_ok.mp read)
  · cases read

theorem defaulted_yields {name : MemberName} {default : α} {part : ρ → α} {codec : Codec α}
    {property : α → Prop} (yields : codec.Yields property) (start : property default)
    {given : Json.Members} {value : α}
    (read : (defaulted name default part codec).read given = .ok value) : property value := by
  simp only [defaulted] at read
  split at read
  · exact yields (Checked.within_eq_ok.mp read)
  · cases read
    exact start

theorem optional_yields {name : MemberName} {part : ρ → Option α} {codec : Codec α}
    {property : α → Prop} (yields : codec.Yields property) {given : Json.Members}
    {found : Option α} (read : (optional name part codec).read given = .ok found) :
    ∀ value ∈ found, property value := by
  simp only [optional] at read
  split at read
  · cases read
    simp
  · simp only [Checked.within_eq_ok, Checked.map_eq_ok] at read
    obtain ⟨value, passed, rfl⟩ := read
    intro result same
    cases same
    exact yields passed
  · cases read
    simp

end Members

namespace Codec

variable {ρ α β : Type}

theorem record_read_eq_ok {members : Members α α} {tree : Json} {value : α} :
    (record members).read tree = .ok value ↔ ∃ given, tree = .obj given ∧
      members.read given = .ok value := by
  cases tree <;> simp [record, Checked.fail]

theorem record_read {members : Members α α} {tree : Json} {value : α}
    (read : (record members).read tree = .ok value) : ∃ given, members.read given = .ok value := by
  obtain ⟨given, _, read⟩ := record_read_eq_ok.mp read
  exact ⟨given, read⟩

theorem Sends.record {members : Members α α} {names : List MemberName} {value : α}
    {received : Option α} (conveys : members.Conveys names value received)
    (apart : names.Pairwise MemberName.Apart) :
    (Codec.record members).Sends value received := by
  intro style
  obtain ⟨entries, rfl, writes, reads⟩ := conveys style
  refine ⟨by simp [Codec.record], ?_⟩
  simp only [Codec.record, writes]
  exact reads _ (Entry.carried_written apart)

theorem Restores.record {members : Members α α} {names : List MemberName} {value : α}
    (faithful : members.Faithful names value value) (apart : names.Pairwise MemberName.Apart) :
    (Codec.record members).Restores value :=
  sends_some.mp (.record faithful apart)

theorem Restores.list {codec : Codec α} {values : List α}
    (restores : ∀ value ∈ values, codec.Restores value) :
    (Codec.list codec).Restores values :=
  fun style =>
    ⟨by simp [Codec.list], Checked.items_map 0 fun value member => (restores value member style).2⟩

theorem Sends.refine {codec : Codec α} {accept : α → Except String β} {view : β → α} {value : β}
    {received : Option α} (sends : codec.Sends (view value) received) :
    (codec.refine accept view).Sends value
      (received.bind fun draft => (accept draft).toOption) := by
  intro style
  obtain ⟨notNull, read⟩ := sends style
  refine ⟨notNull, ?_⟩
  rw [Codec.refine, Checked.toOption_andThen, read]
  congr 1
  funext draft
  cases accept draft <;> rfl

theorem refine_read {codec : Codec α} {accept : α → Except String β} {view : β → α}
    {tree : Json} {value : β} (read : (codec.refine accept view).read tree = .ok value) :
    ∃ draft, codec.read tree = .ok draft ∧ accept draft = .ok value := by
  simp only [Codec.refine, Checked.andThen_eq_ok] at read
  obtain ⟨draft, yields, accepted⟩ := read
  split at accepted
  · rename_i passed
    cases accepted
    exact ⟨draft, yields, passed⟩
  · cases accepted

/-- Whatever is written can stand in a text with the depth left for it, and holds nulls only
in the styles that write them. -/
def Legible (codec : Codec α) (depth : Nat) : Prop :=
  ∀ style value, Json.Legible (!style.sparse) depth (codec.write style value)

end Codec

/-- What the members write can stand in a text. -/
def Members.Legible {ρ α : Type} (members : Members ρ α) (depth : Nat) : Prop :=
  ∀ style record, ∀ member ∈ members.write style record, Json.Legible (!style.sparse) depth member.2

namespace Members.Legible

variable {ρ α β : Type} {depth : Nat} {name : MemberName} {codec : Codec α}

theorem none {value : α} : (Members.none value : Members ρ α).Legible depth := by
  intro style record member written
  cases written

theorem and {first : Members ρ (α → β)} {next : Members ρ α} (left : first.Legible depth)
    (right : next.Legible depth) : (first.and next).Legible depth := by
  intro style record member written
  rcases List.mem_append.mp written with front | back
  · exact left style record member front
  · exact right style record member back

theorem required {part : ρ → α} (legible : codec.Legible depth) :
    (Members.required name part codec).Legible depth := by
  intro style record member written
  rw [List.mem_singleton.mp written]
  exact legible style (part record)

theorem defaulted {value : α} {part : ρ → α} (legible : codec.Legible depth) :
    (Members.defaulted name value part codec).Legible depth := by
  intro style record member written
  rw [List.mem_singleton.mp written]
  exact legible style (part record)

theorem optional {part : ρ → Option α} (legible : codec.Legible depth) :
    (Members.optional name part codec).Legible depth := by
  intro style record member written
  simp only [Members.optional] at written
  split at written
  · rw [List.mem_singleton.mp written]
    exact legible style _
  · split at written
    · cases written
    · rename_i sparse
      rw [List.mem_singleton.mp written]
      simp [Json.Legible, sparse]

end Members.Legible

namespace Codec.Legible

variable {α β : Type} {depth : Nat}

theorem record {members : Members α α} (legible : members.Legible depth) :
    (Codec.record members).Legible (depth + 1) :=
  fun style value => legible style value

theorem list {codec : Codec α} (legible : codec.Legible depth) :
    (Codec.list codec).Legible (depth + 1) := by
  intro style values item member
  obtain ⟨value, _, rfl⟩ := List.mem_map.mp member
  exact legible style value

theorem refine {codec : Codec α} {accept : α → Except String β} {view : β → α}
    (legible : codec.Legible depth) :
    (codec.refine accept view).Legible depth :=
  fun style value => legible style (view value)

end Codec.Legible

end Schema
end SignerPlugin
