import Mathlib.Data.List.Induction
import SignerPlugin.Options

/-! What a list of options sets. Each option is about one field, and of several about one
field the last one counts. So the order of options about different fields makes no
difference. -/

namespace SignerPlugin

namespace SignerOption

/-- What an option can be about. -/
inductive Field
  | context
  | keyVersion
  | remoteVerification
  | digest
  | hashFunc
  deriving DecidableEq, Repr

/-- The values of a field. -/
def Field.Value : Field → Type
  | .context => CallContext
  | .keyVersion => String
  | .remoteVerification => Bool
  | .digest => Bytes
  | .hashFunc => HashFunc

/-- The option that sets a field to a value. -/
def Field.option : (field : Field) → field.Value → SignerOption
  | .context, ctx => .context ctx
  | .keyVersion, version => .keyVersion version
  | .remoteVerification, wanted => .remoteVerification wanted
  | .digest, bytes => .digest bytes
  | .hashFunc, hash => .hashFunc hash

/-- The value that an option sets a field to, if it is about that field. -/
def value? : SignerOption → (field : Field) → Option field.Value
  | .context ctx, .context => some ctx
  | .keyVersion version, .keyVersion => some version
  | .remoteVerification wanted, .remoteVerification => some wanted
  | .digest bytes, .digest => some bytes
  | .hashFunc hash, .hashFunc => some hash
  | _, _ => none

theorem value?_eq_some {option : SignerOption} {field : Field} {value : field.Value} :
    option.value? field = some value ↔ option = field.option value := by
  cases option <;> cases field <;> simp only [value?, Field.option, reduceCtorEq]
  all_goals exact ⟨fun same => congrArg _ (Option.some.inj same), fun same => by cases same; rfl⟩

theorem exists_field (option : SignerOption) :
    ∃ field value, option = Field.option field value := by
  cases option with
  | context ctx => exact ⟨.context, ctx, rfl⟩
  | keyVersion version => exact ⟨.keyVersion, version, rfl⟩
  | remoteVerification wanted => exact ⟨.remoteVerification, wanted, rfl⟩
  | digest bytes => exact ⟨.digest, bytes, rfl⟩
  | hashFunc hash => exact ⟨.hashFunc, hash, rfl⟩

/-- The values that options set a field to, one after the other. -/
def values (options : List SignerOption) (field : Field) : List field.Value :=
  options.filterMap (·.value? field)

/-- The value that the last option about a field sets it to, if there is one. -/
def last? (options : List SignerOption) (field : Field) : Option field.Value :=
  (values options field).getLast?

/-- The lists have the same options about each field, in the same order. -/
def SameByField (first second : List SignerOption) : Prop :=
  ∀ field, values first field = values second field

variable {options first second : List SignerOption} {field : Field} {value : field.Value}

theorem mem_values : value ∈ values options field ↔ field.option value ∈ options := by
  simp only [values, List.mem_filterMap, value?_eq_some, exists_eq_right]

/-- A field is left alone exactly if no option is about it. -/
theorem last?_eq_none : last? options field = none ↔ ∀ value, field.option value ∉ options := by
  rw [last?, List.getLast?_eq_none_iff, List.eq_nil_iff_forall_not_mem]
  simp only [mem_values]

theorem SameByField.mem_iff (same : SameByField first second) (option : SignerOption) :
    option ∈ first ↔ option ∈ second := by
  obtain ⟨field, value, rfl⟩ := option.exists_field
  rw [← mem_values, same field, mem_values]

end SignerOption

namespace OptionValues

open SignerOption

variable {options first second : List SignerOption}

/-- What is set for a field. -/
def get (values : OptionValues) : (field : Field) → Option field.Value
  | .context => values.context
  | .keyVersion => values.keyVersion
  | .remoteVerification => values.remoteVerification
  | .digest => values.digest
  | .hashFunc => values.hashFunc

private theorem get_set (values : OptionValues) (option : SignerOption) (field : Field) :
    (values.set option).get field = (option.value? field).or (values.get field) := by
  cases option <;> cases field <;> rfl

theorem eq_of_get {first second : OptionValues}
    (same : ∀ field, first.get field = second.get field) :
    first = second := by
  obtain ⟨context, version, remote, digest, hash⟩ := first
  obtain rfl : context = second.context := same .context
  obtain rfl : version = second.keyVersion := same .keyVersion
  obtain rfl : remote = second.remoteVerification := same .remoteVerification
  obtain rfl : digest = second.digest := same .digest
  obtain rfl : hash = second.hashFunc := same .hashFunc
  rfl

/-- Of the options about a field the last one counts. -/
theorem get_ofOptions (options : List SignerOption) (field : Field) :
    (ofOptions options).get field = last? options field := by
  induction options using List.reverseRecOn with
  | nil => cases field <;> rfl
  | append_singleton options option ih =>
    rw [ofOptions_append_singleton, get_set, ih, last?, last?, values, values,
      List.filterMap_append, List.getLast?_append]
    congr 1
    cases said : option.value? field with
    | none => simp [said]
    | some value => simp [said]

theorem ofOptions_congr (same : SameByField first second) : ofOptions first = ofOptions second := by
  apply eq_of_get
  intro field
  rw [get_ofOptions, get_ofOptions, last?, last?, same field]

/-- The options set each of the values once, and nothing else. -/
def ListedBy (values : OptionValues) (options : List SignerOption) : Prop :=
  ∀ field, SignerOption.values options field = (values.get field).toList

namespace ListedBy

variable {values : OptionValues}

theorem perm (lists : values.ListedBy first) (reordered : second.Perm first) :
    values.ListedBy second := by
  intro field
  have same : (SignerOption.values second field).Perm (SignerOption.values first field) :=
    reordered.filterMap _
  rw [lists field] at same
  cases known : values.get field with
  | none =>
    rw [known] at same
    exact same.eq_nil
  | some value =>
    rw [known] at same
    exact List.perm_singleton.mp same

theorem ofOptions_eq (lists : values.ListedBy options) : ofOptions options = values := by
  apply eq_of_get
  intro field
  rw [get_ofOptions, last?, lists field]
  cases values.get field <;> rfl

theorem mem_iff (lists : values.ListedBy options) {field : Field} {value : field.Value} :
    field.option value ∈ options ↔ values.get field = some value := by
  rw [← mem_values, lists field, Option.mem_toList]

/-- No option is about a message if no value is. -/
theorem isMessageOption_eq_false (lists : values.ListedBy options) (digest : values.digest = none)
    (hashFunc : values.hashFunc = none) : ∀ option ∈ options, option.isMessageOption = false := by
  intro option member
  obtain ⟨field, value, rfl⟩ := option.exists_field
  have known := lists.mem_iff.mp member
  cases field with
  | digest =>
    have known : values.digest = some value := known
    rw [digest] at known
    cases known
  | hashFunc =>
    have known : values.hashFunc = some value := known
    rw [hashFunc] at known
    cases known
  | _ => rfl

end ListedBy

theorem ofCallOptions_eq_ok {θ : Type} {options : List (SignerOption θ)} {values : OptionValues θ} :
    ofCallOptions options = .ok values ↔
      (∀ option ∈ options, option.isMessageOption = false) ∧ ofOptions options = values := by
  unfold ofCallOptions
  cases found : options.find? SignerOption.isMessageOption with
  | some option =>
    have misplaced := List.find?_some found
    have member := List.mem_of_find?_eq_some found
    simp only [reduceCtorEq, false_iff, not_and]
    intro plain
    rw [plain option member] at misplaced
    cases misplaced
  | none =>
    have plain : ∀ option ∈ options, option.isMessageOption = false := by simpa using found
    simp only [Except.ok.injEq]
    exact ⟨fun same => ⟨plain, same⟩, And.right⟩

end OptionValues
end SignerPlugin
