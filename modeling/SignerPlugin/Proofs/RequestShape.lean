import Mathlib.Tactic.Choose
import SignerPlugin.Plugin.Dispatch
import SignerPlugin.Proofs.WireRoundTrip

/-! Which trees are requests: objects that name a method and have the arguments of that
method, and of no other. So whoever looks up the arguments of a request for its method finds
them. -/

namespace SignerPlugin

open Message Schema

namespace Schema

/-- The tree that is given for a member. Null counts as nothing. -/
def present? (name : MemberName) (members : Json.Members) : Option Json :=
  match given? name members with
  | some (_, .null) => none
  | some (_, tree) => some tree
  | none => none

theorem Members.required_read_eq_ok {ρ α : Type} {name : MemberName} {part : ρ → α}
    {codec : Codec α} {given : Json.Members} {value : α} :
    (Members.required name part codec).read given = .ok value ↔
      ∃ spelling tree, given? name given = some (spelling, tree) ∧ codec.read tree = .ok value := by
  simp only [Members.required]
  cases given? name given with
  | none => simp
  | some entry =>
    simp only [Checked.within_eq_ok, Option.some.injEq]
    constructor
    · intro read
      exact ⟨entry.1, entry.2, rfl, read⟩
    · rintro ⟨_, _, rfl, read⟩
      exact read

theorem Members.optional_read_eq_ok {ρ α : Type} {name : MemberName} {part : ρ → Option α}
    {codec : Codec α} {given : Json.Members} {found : Option α} :
    (Members.optional name part codec).read given = .ok found ↔
      match present? name given with
      | some tree => ∃ value, codec.read tree = .ok value ∧ found = some value
      | .none => found = .none := by
  simp only [Members.optional, present?]
  cases given? name given with
  | none => simp [eq_comm]
  | some entry =>
    obtain ⟨spelling, tree⟩ := entry
    cases tree with
    | null => simp [eq_comm]
    | _ =>
      simp only [Checked.within_eq_ok, Checked.map_eq_ok]
      simp only [eq_comm]

end Schema

/-- The result of the method that a draft names, with the arguments that it has for this
method. Nothing if it has none. -/
def Plugin.performDraft? {σ κ : Type} [PemKey κ] (signer : Signer σ κ) (now : Instant)
    (stdin : Bytes) (draft : MethodDraft) : Option (Action σ (PluginResp Text.CodeText)) :=
  (draft.given draft.method).bind fun args =>
    (MethodArgs.of ⟨draft.method, args⟩).toOption.map (perform signer now stdin)

namespace Message

namespace Method

/-- The member that names the method. -/
def nameMember : MemberName := ⟨"methodName", "method_name"⟩

/-- The codec of a method's arguments. -/
def argsCodec : (method : Method) → Codec method.Args
  | .defaultAlgorithm => Blank.codec
  | .supportedAlgorithms => Blank.codec
  | .createKey => CreateKeyArgs.codec
  | .publicKey => PublicKeyArgs.codec
  | .signMessage => SignMessageArgs.codec
  | .verifySignature => VerifySignatureArgs.codec

/-- The member of a draft that holds the arguments for a method. -/
def argsMember (method : Method) : Members MethodDraft (Option method.Args) :=
  .optional method.member (fun draft => draft.given method) method.argsCodec

private theorem mem_all (method : Method) : method ∈ all := by
  cases method <;> decide

theorem filter_all_eq_singleton {p : Method → Bool} {method : Method} :
    all.filter p = [method] ↔ ∀ other, p other ↔ other = method := by
  constructor
  · intro same other
    have member : other ∈ all.filter p ↔ other ∈ [method] := by rw [same]
    simpa [mem_all other] using member
  · intro alone
    have same : p = fun other => decide (other = method) := by
      funext other
      rw [Bool.eq_iff_iff, alone, decide_eq_true_iff]
    rw [same]
    cases method <;> rfl

end Method

namespace MethodDraft

/-- The fields of a draft are read one by one, each out of its own member. -/
theorem members_read_eq_ok {given : Json.Members} {draft : MethodDraft} :
    members.read given = .ok draft ↔
      (Members.required Method.nameMember (fun draft : MethodDraft => draft.method)
        Method.codec).read given = .ok draft.method ∧
        ∀ method, (Method.argsMember method).read given = .ok (draft.given method) := by
  simp only [members, Members.and_read_eq_ok, Members.none_read_eq_ok]
  constructor
  · rintro ⟨_, verify, ⟨_, sign,
      ⟨_, key, ⟨_, create, ⟨_, supported, ⟨_, preferred, ⟨_, method, rfl, named, rfl⟩, prefers,
      rfl⟩, supports, rfl⟩, creates, rfl⟩, keys, rfl⟩, signs, rfl⟩, verifies, rfl⟩
    refine ⟨named, fun method => ?_⟩
    cases method with
    | defaultAlgorithm => exact prefers
    | supportedAlgorithms => exact supports
    | createKey => exact creates
    | publicKey => exact keys
    | signMessage => exact signs
    | verifySignature => exact verifies
  · rintro ⟨named, reads⟩
    exact ⟨_, _, ⟨_, _, ⟨_, _,
      ⟨_, _, ⟨_, _, ⟨_, _, ⟨_, _, rfl, named, rfl⟩, reads .defaultAlgorithm, rfl⟩,
      reads .supportedAlgorithms, rfl⟩, reads .createKey, rfl⟩, reads .publicKey, rfl⟩,
      reads .signMessage, rfl⟩, reads .verifySignature, rfl⟩

theorem has_eq_isSome (draft : MethodDraft) (method : Method) :
    draft.has method = (draft.given method).isSome := by
  cases method <;> rfl

theorem has_iff {draft : MethodDraft} {method : Method} :
    draft.has method ↔ ∃ args, draft.given method = some args := by
  rw [has_eq_isSome, Option.isSome_iff_exists]

theorem given_eq_none {draft : MethodDraft} {method : Method} (lacks : ¬ draft.has method) :
    draft.given method = none := by
  rw [has_eq_isSome] at lacks
  exact Option.not_isSome_iff_eq_none.mp lacks

/-- A draft is what it gives. -/
theorem eq_of_given {first second : MethodDraft} (method : first.method = second.method)
    (same : ∀ method, first.given method = second.given method) : first = second := by
  obtain ⟨_, preferred, supported, create, key, sign, verify⟩ := first
  have fields := And.intro (same .defaultAlgorithm) <| And.intro (same .supportedAlgorithms) <|
    And.intro (same .createKey) <| And.intro (same .publicKey) <|
      And.intro (same .signMessage) (same .verifySignature)
  obtain ⟨rfl, rfl, rfl, rfl, rfl, rfl⟩ := fields
  cases method
  rfl

private theorem has_ofPayload (payload : Payload) (other : Method) :
    (ofPayload payload).has other = decide (other = payload.method) := by
  obtain ⟨method, args⟩ := payload
  cases method <;> cases other <;> rfl

private theorem given_ofPayload (payload : Payload) :
    (ofPayload payload).given payload.method = some payload.args := by
  obtain ⟨method, args⟩ := payload
  cases method <;> rfl

private theorem method_ofPayload (payload : Payload) :
    (ofPayload payload).method = payload.method := by
  obtain ⟨method, args⟩ := payload
  cases method <;> rfl

/-- A draft with arguments for its method and for no other says no more than these. -/
theorem eq_ofPayload {draft : MethodDraft} (alone : ∀ other, draft.has other ↔ other = draft.method)
    {args : draft.method.Args} (found : draft.given draft.method = some args) :
    draft = ofPayload ⟨draft.method, args⟩ := by
  apply eq_of_given
  · exact (method_ofPayload ⟨draft.method, args⟩).symm
  · intro other
    by_cases same : other = draft.method
    · subst same
      rw [found]
      exact (given_ofPayload ⟨draft.method, args⟩).symm
    · have lacks : ¬ (ofPayload ⟨draft.method, args⟩).has other := by
        rw [has_ofPayload]
        simpa using same
      rw [given_eq_none (mt (alone other).mp same), given_eq_none lacks]

end MethodDraft

private theorem MethodArgs.of_eq_ok (payload : Payload) : ∃ args, of payload = .ok args := by
  obtain ⟨method, args⟩ := payload
  cases method <;> exact ⟨_, rfl⟩

namespace MethodDraft

variable {draft : MethodDraft} {args : MethodArgs}

/-- What a request is accepted from: its method, with arguments for that and for no other. -/
theorem accept_given (accepted : draft.accept = .ok args) :
    draft.method = args.method ∧ ∀ other, draft.has other ↔ other = args.method := by
  obtain rfl := accept_eq_ok accepted
  refine ⟨by cases args <;> rfl, fun other => ?_⟩
  cases args <;> cases other <;> simp [MethodArgs.draft, has, MethodArgs.method]

/-- A draft is accepted exactly if the methods that it has arguments for are its method alone. -/
theorem exists_accept_iff : (∃ args, draft.accept = .ok args) ↔
    draft.populated = [draft.method] := by
  rw [populated, Method.filter_all_eq_singleton]
  constructor
  · rintro ⟨args, accepted⟩
    obtain ⟨method, alone⟩ := accept_given accepted
    rw [method]
    exact alone
  · intro alone
    obtain ⟨args, found⟩ := has_iff.mp ((alone draft.method).mpr rfl)
    obtain ⟨request, makes⟩ := MethodArgs.of_eq_ok ⟨draft.method, args⟩
    rw [MethodArgs.of, ← eq_ofPayload alone found] at makes
    exact ⟨request, makes⟩

/-- What can be told of a draft that became a request: it names the method of the request, has
the arguments that are the payload of the request, and has no others. Whoever looks up the
arguments for the method finds them. -/
structure Holds (draft : MethodDraft) (args : MethodArgs) : Prop where
  method : draft.method = args.method
  payload : ∃ given, draft.given args.method = some given ∧
    args.payload? = some ⟨args.method, given⟩
  others : ∀ other, other ≠ args.method → draft.given other = none
  performed : ∀ (σ κ : Type) [PemKey κ] (signer : Signer σ κ) (now : Instant) (stdin : Bytes),
    Plugin.performDraft? signer now stdin draft = some (Plugin.perform signer now stdin args)

private theorem holds_of_accept (accepted : draft.accept = .ok args) : draft.Holds args := by
  obtain ⟨method, alone⟩ := accept_given accepted
  obtain rfl := accept_eq_ok accepted
  refine ⟨method, ?_, fun other different => given_eq_none (mt (alone other).mp different), ?_⟩
  · cases args <;> exact ⟨_, rfl, rfl⟩
  · intro σ κ _ signer now stdin
    cases args <;> rfl

end MethodDraft

/-- Members that ask for a method: they name it, whatever they give as arguments for any
method can be read as such, and the method is the only one that they give arguments for. -/
structure Method.AskedIn (method : Method) (members : Json.Members) : Prop where
  named : ∃ spelling name, given? nameMember members = some (spelling, name) ∧
    Method.codec.read name = .ok method
  readable : ∀ (other : Method) tree, present? other.member members = some tree →
    ∃ args, other.argsCodec.read tree = .ok args
  alone : ∀ other : Method, (present? other.member members).isSome ↔ other = method

namespace MethodArgs

variable {tree : Json} {args : MethodArgs}

theorem codec_read_eq_ok :
    codec.read tree = .ok args ↔ ∃ draft, MethodDraft.codec.read tree = .ok draft ∧
      draft.accept = .ok args := by
  constructor
  · exact Codec.refine_read
  · rintro ⟨draft, read, accepted⟩
    simp [codec, Codec.refine, Checked.andThen_eq_ok, read, accepted]

end MethodArgs

/-- What is found in the member for a method's arguments. -/
theorem Method.argsMember_read {method : Method} {members : Json.Members}
    {found : Option method.Args} (read : method.argsMember.read members = .ok found) :
    (found.isSome ↔ (present? method.member members).isSome) ∧
      ∀ tree, present? method.member members = some tree →
        ∃ args, method.argsCodec.read tree = .ok args := by
  have result := Members.optional_read_eq_ok.mp read
  cases given : present? method.member members with
  | none =>
    rw [given] at result
    obtain rfl : found = none := result
    exact ⟨by simp, by simp⟩
  | some tree =>
    rw [given] at result
    obtain ⟨args, reads, rfl⟩ := result
    refine ⟨by simp, ?_⟩
    rintro _ ⟨⟩
    exact ⟨args, reads⟩

/-- Trees are read as requests exactly if they are objects whose members ask for a method. -/
theorem MethodArgs.exists_read_iff (tree : Json) :
    (∃ args, MethodArgs.codec.read tree = .ok args) ↔
      ∃ members method, tree = .obj members ∧ Method.AskedIn method members := by
  constructor
  · rintro ⟨args, read⟩
    obtain ⟨draft, drafts, accepted⟩ := codec_read_eq_ok.mp read
    obtain ⟨members, rfl, reads⟩ := Codec.record_read_eq_ok.mp drafts
    obtain ⟨named, fields⟩ := MethodDraft.members_read_eq_ok.mp reads
    obtain ⟨method, alone⟩ := MethodDraft.accept_given accepted
    refine ⟨members, draft.method, rfl, Members.required_read_eq_ok.mp named, ?_, ?_⟩
    · intro other
      exact (Method.argsMember_read (fields other)).2
    · intro other
      rw [← (Method.argsMember_read (fields other)).1, ← MethodDraft.has_eq_isSome, alone, method]
  · rintro ⟨members, method, rfl, asked⟩
    have fields (other : Method) : ∃ found, other.argsMember.read members = .ok found := by
      cases given : present? other.member members with
      | none => exact ⟨none, Members.optional_read_eq_ok.mpr (by rw [given])⟩
      | some tree =>
        obtain ⟨args, reads⟩ := asked.readable other tree given
        exact ⟨some args, Members.optional_read_eq_ok.mpr (by rw [given]; exact ⟨args, reads, rfl⟩)⟩
    choose found reads using fields
    let draft : MethodDraft :=
      { method
        defaultAlgorithm := found .defaultAlgorithm
        supportedAlgorithms := found .supportedAlgorithms
        createKey := found .createKey
        publicKey := found .publicKey
        signMessage := found .signMessage
        verifySignature := found .verifySignature }
    have gives (other : Method) : draft.given other = found other := by cases other <;> rfl
    have drafts : MethodDraft.codec.read (.obj members) = .ok draft := by
      refine Codec.record_read_eq_ok.mpr ⟨members, rfl, MethodDraft.members_read_eq_ok.mpr ⟨?_, ?_⟩⟩
      · exact Members.required_read_eq_ok.mpr asked.named
      · intro other
        rw [gives]
        exact reads other
    have alone : draft.populated = [draft.method] := by
      rw [MethodDraft.populated, Method.filter_all_eq_singleton]
      intro other
      rw [MethodDraft.has_eq_isSome, gives, (Method.argsMember_read (reads other)).1]
      exact asked.alone other
    obtain ⟨args, accepted⟩ := MethodDraft.exists_accept_iff.mpr alone
    exact ⟨args, codec_read_eq_ok.mpr ⟨draft, drafts, accepted⟩⟩

/-- The method of an envelope is read out of a tree of its own. -/
theorem PluginArgs.exists_methodArgs {tree : Json} {envelope : PluginArgs}
    (read : PluginArgs.codec.read tree = .ok envelope) :
    ∃ part, MethodArgs.codec.read part = .ok envelope.methodArgs := by
  obtain ⟨members, reads⟩ := Codec.record_read (Checked.mapCause_eq_ok.mp read)
  simp only [Members.and_read_eq_ok, Members.none_read_eq_ok] at reads
  obtain ⟨_, args, ⟨_, init, rfl, _, rfl⟩, last, rfl⟩ := reads
  obtain ⟨_, part, _, reads⟩ := Members.required_read_eq_ok.mp last
  exact ⟨part, reads⟩

/-- A tree, or a text that stands for it, is decoded as a request exactly if it is an object
that names a method and gives arguments that can be read for this method, and arguments for no
other; spellings, nulls and repetitions count as they do for any member. So every request that
comes out of decoding, alone or in an envelope, was read with the arguments of its method and
with no others, and these are found where they are looked up. -/
theorem requests_exact :
    (∀ tree, (∃ args, MethodArgs.form.ofTree tree = .ok args) ↔
      ∃ members method, tree = .obj members ∧ Method.AskedIn method members) ∧
    (∀ text tree, Json.parse? text = some tree → ((∃ args, MethodArgs.form.decode text = .ok args) ↔
      ∃ members method, tree = .obj members ∧ Method.AskedIn method members)) ∧
    (∀ args, MethodArgs.form.Yields args →
      ∃ tree draft, MethodDraft.codec.read tree = .ok draft ∧ draft.Holds args) ∧
    ∀ envelope, PluginArgs.form.Yields envelope →
      ∃ tree draft, MethodDraft.codec.read tree = .ok draft ∧ draft.Holds envelope.methodArgs := by
  have held {tree : Json} {args : MethodArgs} (read : MethodArgs.codec.read tree = .ok args) :
      ∃ tree draft, MethodDraft.codec.read tree = .ok draft ∧ draft.Holds args := by
    obtain ⟨draft, drafts, accepted⟩ := MethodArgs.codec_read_eq_ok.mp read
    exact ⟨tree, draft, drafts, MethodDraft.holds_of_accept accepted⟩
  refine ⟨?_, ?_, ?_, ?_⟩
  · intro tree
    simp only [Form.ofTree_eq_ok]
    exact MethodArgs.exists_read_iff tree
  · intro text tree parsed
    simp only [Form.decode_eq_ok, parsed, Option.some.injEq, exists_eq_left']
    exact MethodArgs.exists_read_iff tree
  · intro args yields
    obtain ⟨tree, read⟩ := yields.read
    exact held read
  · intro envelope yields
    obtain ⟨tree, read⟩ := yields.read
    obtain ⟨part, reads⟩ := PluginArgs.exists_methodArgs read
    exact held reads

/-- The last of several members with one name counts, camel case counts before the other
spelling, and null is no payload. -/
theorem requests_exact_spellings :
    let members : Json.Members :=
      [("method_name", .str "createKey"), ("methodName", .str "signMessage"),
      ("createKey", .null), ("create_key", .obj [("algorithm", .str "ED25519")]),
      ("signMessage", .str "none"), ("signMessage", .obj []), ("verify_signature", .null)]
    let text := Bytes.ofText (Json.render (.obj members))
    Method.AskedIn .signMessage members ∧ Json.parse? text = some (.obj members) ∧
      (∃ args, MethodArgs.form.ofTree (.obj members) = .ok args) ∧
        (∃ args, MethodArgs.form.decode text = .ok args) ∧
      ∃ tree draft, MethodDraft.codec.read tree = .ok draft ∧ draft.Holds (.signMessage {}) := by
  intro members text
  have asked : Method.AskedIn .signMessage members := by
    refine ⟨⟨"methodName", .str "signMessage", rfl, rfl⟩, ?_, ?_⟩
    · intro other tree given
      cases other <;> cases given
      exact ⟨{}, rfl⟩
    · intro other
      cases other <;> decide
  have legible : Json.Legible true Json.wirePolicy.depth (.obj members) := by
    simp [Json.Legible, Json.wirePolicy, members]
  have parsed : Json.parse? text = some (.obj members) := Json.parse?_render legible
  obtain ⟨trees, texts, requests, _⟩ := requests_exact
  have shape : ∃ given method, JsonTree.obj members = .obj given ∧ Method.AskedIn method given :=
    ⟨members, .signMessage, rfl, asked⟩
  exact ⟨asked, parsed, (trees _).mpr shape, (texts text _ parsed).mpr shape,
    requests _ (.inr ⟨.obj members, rfl⟩)⟩

end Message
end SignerPlugin
