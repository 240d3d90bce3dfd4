import SignerPlugin.Message.Form
import SignerPlugin.Proofs.Base64Acceptance
import SignerPlugin.Proofs.NamedMembers

/-! The byte fields of messages. Which texts they accept is which texts are read as base64,
and a text that is not adds one issue, placed at its field, to those that the rest of the
record has; an accepted one adds none. -/

namespace SignerPlugin

namespace Schema

variable {ρ α β : Type}

/-- An object but for the value of the member that is read for a name. -/
structure Slot (name : MemberName) where
  front : Json.Members
  spelling : String
  back : Json.Members
  spelled : spelling = name.camel ∨ spelling = name.plain
  decisive : ∀ tree, given? name (front ++ (spelling, tree) :: back) = some (spelling, tree)

namespace Slot

variable {name other : MemberName}

def fill (slot : Slot name) (tree : Json) : Json.Members :=
  slot.front ++ (slot.spelling, tree) :: slot.back

/-- The step from the object to the member. -/
def step (slot : Slot name) : Step := .member slot.spelling

theorem given?_fill (slot : Slot name) (tree : Json) :
    given? name (slot.fill tree) = some (slot.spelling, tree) :=
  slot.decisive tree

theorem spelling_ne (slot : Slot name) (apart : name.Apart other) :
    slot.spelling ≠ other.camel ∧ slot.spelling ≠ other.plain := by
  obtain ⟨camels, camel_plain, plain_camel, plains⟩ := apart
  rcases slot.spelled with same | same
  · exact same ▸ ⟨camels, camel_plain⟩
  · exact same ▸ ⟨plain_camel, plains⟩

/-- What is read for other names does not depend on the member. -/
theorem given?_fill_of_apart (slot : Slot name) (apart : name.Apart other) (tree filling : Json) :
    given? other (slot.fill tree) = given? other (slot.fill filling) := by
  have different := slot.spelling_ne apart
  simp only [given?, fill, Json.Members.find?_between, if_neg different.1, if_neg different.2]

end Slot

theorem given?_spelled {name : MemberName} {members : Json.Members} {entry : String × Json}
    (given : given? name members = some entry) : entry.1 = name.camel ∨ entry.1 = name.plain := by
  unfold given? at given
  split at given
  · cases given
    exact .inl rfl
  · obtain ⟨_, _, rfl⟩ := Option.map_eq_some_iff.mp given
    exact .inr rfl

/-- The member that counts for a name is the last one that has it. -/
theorem exists_of_find? {members : Json.Members} {name : String} {tree : Json}
    (found : members.find? name = some tree) :
    ∃ front back, members = front ++ (name, tree) :: back ∧
      Json.Members.find? back name = none := by
  induction members using List.reverseRecOn with
  | nil => cases found
  | append_singleton members member ih =>
    obtain ⟨shown, value⟩ := member
    rw [Json.Members.find?_concat] at found
    split at found
    · rename_i same
      cases same
      cases found
      exact ⟨members, [], rfl, rfl⟩
    · rename_i different
      obtain ⟨front, back, rfl, last⟩ := ih found
      exact ⟨front, back ++ [(shown, value)], by simp, by rw [Json.Members.find?_concat, if_neg
        different, last]⟩

/-- Wherever a value is read for a name, it fills a slot. -/
theorem Slot.exists_fill {name : MemberName} {members : Json.Members} {spelling : String}
    {tree : Json} (given : given? name members = some (spelling, tree)) :
    ∃ slot : Slot name, slot.spelling = spelling ∧ slot.fill tree = members := by
  unfold given? at given
  split at given
  · rename_i found
    cases given
    obtain ⟨front, back, rfl, last⟩ := exists_of_find? found
    have decisive (filling : Json) : given? name (front ++ (name.camel, filling) :: back) =
        some (name.camel, filling) := by
      rw [given?, Json.Members.find?_between, last, if_pos rfl, Option.none_or]
    exact ⟨⟨front, name.camel, back, .inl rfl, decisive⟩, rfl, rfl⟩
  · rename_i absent
    obtain ⟨_, found, same⟩ := Option.map_eq_some_iff.mp given
    cases same
    obtain ⟨front, back, rfl, last⟩ := exists_of_find? found
    rw [Json.Members.find?_between, Option.or_eq_none_iff] at absent
    -- The other spelling only counts where the first is nowhere, so filling the slot anew
    -- changes nothing about that.
    have different : name.plain ≠ name.camel := fun same => by simp [same] at absent
    rw [if_neg different] at absent
    have decisive (filling : Json) : given? name (front ++ (name.plain, filling) :: back) =
        some (name.plain, filling) := by
      simp only [given?, Json.Members.find?_between, absent.1, absent.2, if_neg different, last,
        if_true, Option.none_or, Option.map_some]
    exact ⟨⟨front, name.plain, back, .inr rfl, decisive⟩, rfl, rfl⟩

/-- The issues that are found with a value. -/
def Checked.issues : Checked α → List Issue
  | .ok _ => []
  | .bad issues => issues

theorem Checked.issues_both (f : Checked (α → β)) (x : Checked α) :
    (f.both x).issues = f.issues ++ x.issues := by
  cases f <;> cases x <;> simp [both, issues]

/-- An issue that is not with the member that a step leads to. -/
def Issue.Elsewhere (step : Step) (issue : Issue) : Prop := issue.place.head? ≠ some step

namespace Slot

variable {name other : MemberName} {issue : Issue}

theorem elsewhere (slot : Slot name) (apart : name.Apart other) {spelling : String}
    (spelled : spelling = other.camel ∨ spelling = other.plain)
    (placed : issue.place.head? = some (.member spelling)) :
    issue.Elsewhere slot.step := by
  have different := slot.spelling_ne apart
  rw [Issue.Elsewhere, placed, step]
  rcases spelled with rfl | rfl
  · simpa using different.1.symm
  · simpa using different.2.symm

theorem elsewhere_of_within (slot : Slot name) (apart : name.Apart other) {spelling : String}
    (spelled : spelling = other.camel ∨ spelling = other.plain) {checked : Checked α}
    (member : issue ∈ (checked.within (.member spelling)).issues) : issue.Elsewhere slot.step := by
  cases checked with
  | ok value => cases member
  | bad issues =>
    obtain ⟨inner, _, rfl⟩ := List.mem_map.mp member
    exact slot.elsewhere apart spelled rfl

end Slot

/-- What comes of a record by what comes of the text in one of its byte fields, beside what
comes of it with an accepted text there: with a text that is read, as good or with the same
issues, none of them at the field; with any other one, with the same issues and in their midst
the one at the field. -/
inductive Verdict (step : Step) : Except Base64.Fault Bytes → Checked α → Checked α → Prop
  | passed {bytes : Bytes} (value other : α) : Verdict step (.ok bytes) (.ok other) (.ok value)
  | elsewhere {bytes : Bytes} {issues : List Issue}
      (others : ∀ issue ∈ issues, issue.Elsewhere step) :
      Verdict step (.ok bytes) (.bad issues) (.bad issues)
  | refused {fault : Base64.Fault} {accepted : Checked α} {front back : List Issue}
      (others : ∀ issue ∈ front ++ back, issue.Elsewhere step)
      (same : accepted.issues = front ++ back) :
      Verdict step (.error fault) accepted
        (.bad (front ++ ⟨[step], .refused (.ofString fault.message)⟩ :: back))

namespace Verdict

variable {step : Step} {decoded : Except Base64.Fault Bytes}

theorem alone {fault : Base64.Fault} (value : α) :
    Verdict step (.error fault) (.ok value) (.bad [⟨[step], .refused (.ofString fault.message)⟩]) :=
  @refused α step fault (.ok value) [] [] (by simp) rfl

private theorem both_left {f g : Checked (α → β)} {rest : Checked α}
    (verdict : Verdict step decoded f g) (apart : ∀ issue ∈ rest.issues, issue.Elsewhere step) :
    Verdict step decoded (f.both rest) (g.both rest) := by
  cases verdict with
  | passed value other =>
    cases rest with
    | ok last => exact .passed (value last) (other last)
    | bad issues => exact .elsewhere apart
  | elsewhere others =>
    cases rest with
    | ok last => exact .elsewhere others
    | bad more => exact .elsewhere (List.forall_mem_append.mpr ⟨others, apart⟩)
  | @refused fault _ front back others same =>
    have issues : (f.both rest).issues = front ++ (back ++ rest.issues) := by
      rw [Checked.issues_both, same, List.append_assoc]
    have found : Verdict step (.error fault) (f.both rest) _ :=
      .refused (List.append_assoc .. ▸ List.forall_mem_append.mpr ⟨others, apart⟩) issues
    cases rest with
    | ok last => simpa [Checked.both, Checked.issues] using found
    | bad more => simpa [Checked.both, Checked.issues] using found

private theorem both_right {f : Checked (α → β)} {x y : Checked α}
    (verdict : Verdict step decoded x y) (apart : ∀ issue ∈ f.issues, issue.Elsewhere step) :
    Verdict step decoded (f.both x) (f.both y) := by
  cases verdict with
  | passed value other =>
    cases f with
    | ok make => exact .passed (make value) (make other)
    | bad issues => exact .elsewhere apart
  | elsewhere others =>
    cases f with
    | ok make => exact .elsewhere others
    | bad more => exact .elsewhere (List.forall_mem_append.mpr ⟨apart, others⟩)
  | @refused fault _ front back others same =>
    have issues : (f.both x).issues = f.issues ++ front ++ back := by
      rw [Checked.issues_both, same, List.append_assoc]
    have found : Verdict step (.error fault) (f.both x) _ :=
      .refused (List.append_assoc .. ▸ List.forall_mem_append.mpr ⟨apart, others⟩) issues
    cases f with
    | ok make => simpa [Checked.both, Checked.issues] using found
    | bad more => simpa [Checked.both, Checked.issues] using found

end Verdict

namespace Members

/-- The members are read without the one of a name, and their issues are not with it. -/
def Spares (members : Members ρ α) (name : MemberName) : Prop :=
  ∀ (slot : Slot name) (tree filling : Json), members.read (slot.fill tree) =
    members.read (slot.fill filling) ∧
    ∀ issue ∈ (members.read (slot.fill tree)).issues, issue.Elsewhere slot.step

/-- The member of a name is read as a byte string. -/
def Bears (members : Members ρ α) (name : MemberName) : Prop :=
  ∀ (slot : Slot name) (text accepted : String) (bytes : Bytes), Base64.decode accepted =
    .ok bytes →
    Verdict slot.step (Base64.decode text) (members.read (slot.fill (.str accepted)))
      (members.read (slot.fill (.str text)))

variable {name other : MemberName} {first : Members ρ (α → β)} {next : Members ρ α}
  {codec : Codec α}

theorem spares_none {value : α} : (Members.none value : Members ρ α).Spares name :=
  fun _ _ _ => ⟨rfl, fun _ member => by cases member⟩

theorem Spares.and (left : first.Spares name) (right : next.Spares name) :
    (first.and next).Spares name := by
  intro slot tree filling
  obtain ⟨these, apart⟩ := left slot tree filling
  obtain ⟨those, apart'⟩ := right slot tree filling
  refine ⟨by simp only [Members.and, these, those], fun issue member => ?_⟩
  rw [Members.and, Checked.issues_both, List.mem_append] at member
  exact member.elim (apart issue) (apart' issue)

private theorem spares_defaulted {value : α} {part : ρ → α} (apart : name.Apart other) :
    (Members.defaulted other value part codec).Spares name := by
  intro slot tree filling
  have given := slot.given?_fill_of_apart apart tree filling
  refine ⟨by simp only [Members.defaulted, given], fun issue member => ?_⟩
  simp only [Members.defaulted] at member
  cases found : given? other (slot.fill tree) with
  | none =>
    rw [found] at member
    cases member
  | some entry =>
    rw [found] at member
    exact slot.elsewhere_of_within apart (given?_spelled found) member

theorem spares_optional {part : ρ → Option α} (apart : name.Apart other) :
    (Members.optional other part codec).Spares name := by
  intro slot tree filling
  have given := slot.given?_fill_of_apart apart tree filling
  refine ⟨by simp only [Members.optional, given], fun issue member => ?_⟩
  simp only [Members.optional] at member
  split at member
  · cases member
  · rename_i found
    exact slot.elsewhere_of_within apart (given?_spelled found) member
  · cases member

theorem bears_required {part : ρ → Bytes} : (Members.required name part .bytes).Bears name := by
  intro slot text accepted bytes decoded
  simp only [Members.required, Slot.given?_fill, Codec.bytes, decoded]
  cases Base64.decode text with
  | ok value => exact .passed value bytes
  | error fault => exact .alone _

private theorem bears_optional {part : ρ → Option Bytes} :
    (Members.optional name part .bytes).Bears name := by
  intro slot text accepted bytes decoded
  simp only [Members.optional, Slot.given?_fill, Codec.bytes, decoded]
  cases Base64.decode text with
  | ok value => exact .passed (some value) (some bytes)
  | error fault => exact .alone _

/-- What comes of other members adds the same to both outcomes. -/
theorem Bears.and_left (bears : first.Bears name) (spares : next.Spares name) :
    (first.and next).Bears name := by
  intro slot text accepted bytes decoded
  obtain ⟨same, apart⟩ := spares slot (.str text) (.str accepted)
  simp only [Members.and, same] at apart ⊢
  exact (bears slot text accepted bytes decoded).both_left apart

theorem Bears.and_right (spares : first.Spares name) (bears : next.Bears name) :
    (first.and next).Bears name := by
  intro slot text accepted bytes decoded
  obtain ⟨same, apart⟩ := spares slot (.str text) (.str accepted)
  simp only [Members.and, same] at apart ⊢
  exact (bears slot text accepted bytes decoded).both_right apart

theorem required_eq_ok {part : ρ → Bytes} {slot : Slot name} {text : String} {bytes : Bytes} :
    (Members.required name part .bytes).read (slot.fill (.str text)) = .ok bytes ↔
      Base64.decode text = .ok bytes := by
  simp only [Members.required, Slot.given?_fill, Codec.bytes]
  cases Base64.decode text with
  | ok value => simp [Checked.within]
  | error fault => simp [Checked.within, Checked.fail]

private theorem optional_eq_ok {part : ρ → Option Bytes} {slot : Slot name} {text : String}
    {found : Option Bytes} :
    (Members.optional name part .bytes).read (slot.fill (.str text)) = .ok found ↔
      ∃ bytes, Base64.decode text = .ok bytes ∧ some bytes = found := by
  simp only [Members.optional, Slot.given?_fill, Codec.bytes]
  cases Base64.decode text with
  | ok value => simp [Checked.within, Checked.map]
  | error fault => simp [Checked.within, Checked.fail, Checked.map]

end Members

/-- A record has a byte field: what is read for it is what its text is read as. -/
structure Codec.Bears (codec : Codec α) (name : MemberName) (part : α → Option Bytes) : Prop where
  members : ∃ members : Members α α, codec = .record members ∧ members.Bears name
  read : ∀ {slot : Slot name} {text : String} {value : α}, codec.read
    (.obj (slot.fill (.str text))) = .ok value →
    ∃ bytes, Base64.decode text = .ok bytes ∧ part value = some bytes

end Schema

namespace Message

open Schema

section Records

variable {ρ : Type}

theorem KeyResp.codec_bears :
    codec.Bears ⟨"publicKeyPEM", "public_key_pem"⟩ (some ·.publicKeyPem) where
  members := ⟨_, rfl, .and_right Members.spares_none Members.bears_required⟩
  read := by
    intro slot text value read
    obtain ⟨_, bytes, made, found, rfl⟩ := Checked.both_eq_ok.mp read
    cases made
    exact ⟨bytes, Members.required_eq_ok.mp found, rfl⟩

theorem SignMessageResp.codec_bears : codec.Bears (.same "signature") (some ·.signature) where
  members := ⟨_, rfl, .and_right Members.spares_none Members.bears_required⟩
  read := by
    intro slot text value read
    obtain ⟨_, bytes, made, found, rfl⟩ := Checked.both_eq_ok.mp read
    cases made
    exact ⟨bytes, Members.required_eq_ok.mp found, rfl⟩

theorem VerifySignatureArgs.codec_bears : codec.Bears (.same "signature") (some ·.signature) where
  members :=
    ⟨_, rfl, .and_left (.and_right Members.spares_none Members.bears_required)
      (Members.spares_defaulted (by decide))⟩
  read := by
    intro slot text value read
    obtain ⟨_, options, made, _, rfl⟩ := Checked.both_eq_ok.mp read
    obtain ⟨_, bytes, begun, found, rfl⟩ := Checked.both_eq_ok.mp made
    cases begun
    exact ⟨bytes, Members.required_eq_ok.mp found, rfl⟩

theorem MessageOptions.members_bear (part : ρ → MessageOptions) :
    (members part).Bears (.same "digest") :=
  .and_left (.and_right Members.spares_none Members.bears_optional)
    (Members.spares_optional (by decide))

theorem MessageOptions.digest_of_read {part : ρ → MessageOptions} {slot : Slot (.same "digest")}
    {text : String} {value : MessageOptions}
    (read : (members part).read (slot.fill (.str text)) = .ok value) :
    ∃ bytes, Base64.decode text = .ok bytes ∧ value.digest = some bytes := by
  obtain ⟨_, hash, made, _, rfl⟩ := Checked.both_eq_ok.mp read
  obtain ⟨_, digest, begun, found, rfl⟩ := Checked.both_eq_ok.mp made
  cases begun
  obtain ⟨bytes, decoded, rfl⟩ := Members.optional_eq_ok.mp found
  exact ⟨bytes, decoded, rfl⟩

theorem MessageOptions.codec_bears : codec.Bears (.same "digest") digest where
  members := ⟨_, rfl, members_bear id⟩
  read := digest_of_read

private theorem RpcOptions.members_spare (part : ρ → RpcOptions) :
    (members part).Spares (.same "digest") :=
  .and (.and (.and Members.spares_none (Members.spares_optional (by decide)))
    (Members.spares_optional (by decide)))
    (Members.spares_optional (by decide))

theorem SignOptions.codec_bears : codec.Bears (.same "digest") (·.digest) where
  members := ⟨_, rfl, .and_left (.and_right Members.spares_none (MessageOptions.members_bear _))
    (RpcOptions.members_spare _)⟩
  read := by
    intro slot text value read
    obtain ⟨_, call, made, _, rfl⟩ := Checked.both_eq_ok.mp read
    obtain ⟨_, message, begun, found, rfl⟩ := Checked.both_eq_ok.mp made
    cases begun
    exact MessageOptions.digest_of_read found

end Records

/-- The byte fields of messages. -/
inductive ByteField
  | createdKey
  | publicKey
  | signature
  | checkedSignature
  | digest
  | signDigest
  | verifyDigest
  deriving DecidableEq, Repr

namespace ByteField

/-- The kind of record that has the field. -/
def Record : ByteField → Type
  | .createdKey => KeyResp
  | .publicKey => KeyResp
  | .signature => SignMessageResp
  | .checkedSignature => VerifySignatureArgs
  | .digest => MessageOptions
  | .signDigest => SignOptions
  | .verifyDigest => VerifyOptions

def form : (field : ByteField) → Form field.Record
  | .createdKey => CreateKeyResp.form
  | .publicKey => PublicKeyResp.form
  | .signature => SignMessageResp.form
  | .checkedSignature => VerifySignatureArgs.form
  | .digest => MessageOptions.form
  | .signDigest => SignOptions.form
  | .verifyDigest => VerifyOptions.form

def name : ByteField → MemberName
  | .createdKey => ⟨"publicKeyPEM", "public_key_pem"⟩
  | .publicKey => ⟨"publicKeyPEM", "public_key_pem"⟩
  | .signature => .same "signature"
  | .checkedSignature => .same "signature"
  | .digest => .same "digest"
  | .signDigest => .same "digest"
  | .verifyDigest => .same "digest"

/-- The bytes in the field. -/
def part : (field : ByteField) → field.Record → Option Bytes
  | .createdKey => fun reply => some (KeyResp.publicKeyPem reply)
  | .publicKey => fun reply => some (KeyResp.publicKeyPem reply)
  | .signature => fun reply => some (SignMessageResp.signature reply)
  | .checkedSignature => fun args => some (VerifySignatureArgs.signature args)
  | .digest => MessageOptions.digest
  | .signDigest => fun options => (SignOptions.toMessageOptions options).digest
  | .verifyDigest => fun options => (SignOptions.toMessageOptions options).digest

theorem bears (field : ByteField) : field.form.codec.Bears field.name field.part := by
  cases field with
  | createdKey => exact KeyResp.codec_bears
  | publicKey => exact KeyResp.codec_bears
  | signature => exact SignMessageResp.codec_bears
  | checkedSignature => exact VerifySignatureArgs.codec_bears
  | digest => exact MessageOptions.codec_bears
  | signDigest => exact SignOptions.codec_bears
  | verifyDigest => exact SignOptions.codec_bears

theorem verdict (field : ByteField) (slot : Slot field.name) (text : String) {accepted : String}
    {bytes : Bytes} (decoded : Base64.decode accepted = .ok bytes) :
    Verdict slot.step (Base64.decode text)
      (field.form.codec.read (.obj (slot.fill (.str accepted))))
      (field.form.codec.read (.obj (slot.fill (.str text)))) := by
  obtain ⟨members, same, bears⟩ := field.bears.members
  rw [same]
  exact bears slot text accepted bytes decoded

open Base64 in
/-- Which texts the byte fields accept, and as which bytes. A text is accepted if it is
standard base64, or if it is whole groups of data characters with signs behind them that pad
nothing: these are read as if they were not there. The bytes are those that the data
characters write six bits each, so standard texts of the same bytes differ at most in the bits
of the last data character that fill no byte. What is read for the field is these bytes. Any
other text is an issue with the field, and neither it nor an accepted one changes what is
found with the rest of the record. -/
theorem reads (field : ByteField) {members : Json.Members} {spelling text : String}
    (given : given? field.name members = some (spelling, .str text)) :
    let decoded := Base64.decode text
    let reading := field.form.codec.read (.obj members)
    ((∃ bytes, decoded = .ok bytes) ↔ IsStandard text.toList ∨ IsOverpadded text.toList) ∧
    (∀ bytes, decoded = .ok bytes → bytes = bytesOf (digits text.toList)) ∧
    (IsStandard text.toList → ∀ other : String, IsStandard other.toList →
      (decoded = Base64.decode other ↔ Twins text.toList other.toList)) ∧
    (IsOverpadded text.toList → ∃ (whole : String) (pads : Nat), IsStandard whole.toList ∧
      0 < pads ∧
      text.toList = whole.toList ++ List.replicate pads '=' ∧ decoded = Base64.decode whole) ∧
    (∀ message, Json.parse? message = some (.obj members) →
      field.form.decode message = field.form.conclude reading) ∧
    (∀ value, reading = .ok value → ∃ bytes, decoded = .ok bytes ∧ field.part value = some bytes) ∧
    ∃ slot : Slot field.name, slot.spelling = spelling ∧ slot.fill (.str text) = members ∧
      ∀ accepted : String, IsStandard accepted.toList →
        Verdict (.member spelling) decoded
          (field.form.codec.read (.obj (slot.fill (.str accepted)))) reading := by
  intro decoded reading
  obtain ⟨slot, rfl, rfl⟩ := Slot.exists_fill given
  refine ⟨accepted_iff, fun bytes read => (decodeChars_eq_ok_iff.mp read).2,
    fun standard other standard' => decode_eq_iff standard standard', decode_of_isOverpadded, ?_,
    fun value read => field.bears.read read, slot, rfl, rfl, fun accepted standard => ?_⟩
  · intro message parsed
    rw [Form.decode, parsed]
  · exact field.verdict slot text (decode_of_isStandard standard)

/-- The field counts under its name, also with another member behind it that is read for no name. -/
theorem reads_digest :
    let members : Json.Members :=
      [("hashFunc", .int 5), ("digest", .str "QUJD"), ("digests", .null)]
    given? ByteField.digest.name members = some ("digest", .str "QUJD") ∧
      ∃ bytes, Base64.decode "QUJD" = .ok bytes := by
  intro members
  have given : given? ByteField.digest.name members = some ("digest", .str "QUJD") := rfl
  have letters : "QUJD".toList.all (Base64.alphabet.contains ·) = true := by decide
  exact ⟨given, (reads .digest given).1.mpr
    (.inl ⟨rfl, "QUJD".toList, 0, by decide, rfl, by simpa using letters⟩)⟩

/-- A surplus sign is accepted, though the text is not standard, and makes a second text for
the same bytes. -/
theorem reads_surplus :
    ¬ Base64.IsStandard "AAAA=".toList ∧
      SignMessageResp.form.decode (Bytes.ofText "\x7b\"signature\":\"AAAA=\"\x7d") =
        .ok ⟨[0, 0, 0]⟩ ∧
      SignMessageResp.form.decode (Bytes.ofText "\x7b\"signature\":\"AAAA\"\x7d") =
        .ok ⟨[0, 0, 0]⟩ := by
  refine ⟨fun standard => absurd standard.1 (by decide), ?_, ?_⟩
  · decide +kernel
  · decide +kernel

end ByteField

end Message

end SignerPlugin
