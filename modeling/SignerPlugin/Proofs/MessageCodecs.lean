import SignerPlugin.Message.Form
import SignerPlugin.Proofs.Base64Text
import SignerPlugin.Proofs.CodecLaws
import SignerPlugin.Proofs.TimeText

/-! What the codecs of messages restore: every message whose deadline, if it has one, has an
offset of whole minutes. No message with another deadline is ever read. -/

namespace SignerPlugin

namespace Schema.Codec

theorem text_restores (value : String) : text.Restores value :=
  fun _ => ⟨by simp [text], rfl⟩

theorem bytes_restores (value : Bytes) : bytes.Restores value := by
  intro style
  refine ⟨by simp [bytes], ?_⟩
  simp only [bytes, Base64.decode_encode]

private theorem bool_restores (value : Bool) : bool.Restores value :=
  fun _ => ⟨by simp [bool], rfl⟩

theorem hash_restores (value : HashFunc) : hash.Restores value := by
  intro style
  refine ⟨by simp [hash], ?_⟩
  simp only [hash, hashOfInt, HashFunc.ofId?_id]

/-- A time is received as its text says it. -/
theorem time_sends (t : Time.Timestamp) : time.Sends t t.received? := by
  intro style
  refine ⟨by simp [time], ?_⟩
  have text := Time.MessageTime.ofText_toText t
  simp only [time]
  cases read : Time.MessageTime.ofText t.toText with
  | ok s =>
    rw [read] at text
    exact text
  | error fault =>
    rw [read] at text
    exact text

theorem time_yields : time.Yields Time.Timestamp.InMinutes := by
  intro tree t read
  unfold time at read
  simp only at read
  split at read
  · rename_i found
    cases read
    split at found
    · exact Time.MessageTime.ofText_inMinutes found
    · exact Time.MessageTime.ofInt_inMinutes found
    · split at found
      · exact Time.MessageTime.ofBinary_inMinutes found
      · cases found
  · cases read

private theorem named_restores {α : Type} {all : List α} {name : α → String} {value : α}
    (known : all.find? (fun other => name other = name value) = some value) :
    (named all name).Restores value := by
  intro style
  refine ⟨by simp [named], ?_⟩
  simp only [named, known]

section Legible

variable {depth : Nat}

theorem text_legible : text.Legible depth :=
  fun _ _ => by cases depth <;> trivial

theorem bytes_legible : bytes.Legible depth :=
  fun _ _ => by cases depth <;> trivial

private theorem bool_legible : bool.Legible depth :=
  fun _ _ => by cases depth <;> trivial

theorem time_legible : time.Legible depth :=
  fun _ _ => by cases depth <;> trivial

private theorem named_legible {α : Type} {all : List α} {name : α → String} :
    (named all name).Legible depth :=
  fun _ _ => by cases depth <;> trivial

theorem hash_legible : hash.Legible depth := by
  intro style value
  have short : (toString (value.id : Int)).length ≤ Json.maxDigits := by
    cases value <;> decide
  cases depth <;> exact short

end Legible

end Schema.Codec

namespace Message

open Schema Codec

variable {ρ : Type} {depth : Nat}

namespace RpcOptions

/-- The deadline, if there is one, has an offset of whole minutes. -/
def InMinutes (options : RpcOptions) : Prop := ∀ t ∈ options.ctxDeadline, t.InMinutes

def memberNames : List MemberName :=
  [⟨"ctxDeadline", "ctx_deadline"⟩, ⟨"keyVersion", "key_version"⟩,
    ⟨"remoteVerification", "remote_verification"⟩]

/-- The options with the deadline that its text says. -/
def received? (options : RpcOptions) : Option RpcOptions :=
  (options.ctxDeadline.mapM Time.Timestamp.received?).map fun ctxDeadline =>
    { options with ctxDeadline }

theorem received?_of_inMinutes {options : RpcOptions} (whole : options.InMinutes) :
    options.received? = some options := by
  rw [received?, Time.Timestamp.mapM_received? whole]
  rfl

theorem members_convey (part : ρ → RpcOptions) (record : ρ) :
    (members part).Conveys memberNames record (part record).received? := by
  have conveys : (members part).Conveys memberNames record _ :=
    .and (.and (.and .none (.optional fun t _ => time_sends t))
      (Members.Faithful.optional fun version _ => text_restores version))
      (Members.Faithful.optional fun wanted _ => bool_restores wanted)
  rw [received?]
  cases received : (part record).ctxDeadline.mapM Time.Timestamp.received? with
  | none =>
    rw [received] at conveys
    exact conveys
  | some ctxDeadline =>
    rw [received] at conveys
    exact conveys

theorem members_legible {part : ρ → RpcOptions} : (members part).Legible depth :=
  .and (.and (.and .none (.optional time_legible)) (.optional text_legible))
    (.optional bool_legible)

theorem members_inMinutes {part : ρ → RpcOptions} {given : Json.Members} {options : RpcOptions}
    (read : (members part).read given = .ok options) : options.InMinutes := by
  simp only [members, Members.and_read_eq_ok, Members.none_read_eq_ok] at read
  obtain ⟨_, wanted, ⟨_, version, ⟨_, deadline, rfl, first, rfl⟩, _, rfl⟩, _, rfl⟩ := read
  exact Members.optional_yields time_yields first

theorem codec_sends (options : RpcOptions) : codec.Sends options options.received? :=
  .record (members_convey id options) (by decide)

theorem codec_restores {options : RpcOptions} (whole : options.InMinutes) :
    codec.Restores options :=
  (codec_sends options).restores (received?_of_inMinutes whole)

theorem codec_yields : codec.Yields InMinutes := by
  intro tree options read
  obtain ⟨given, read⟩ := record_read read
  exact members_inMinutes read

theorem codec_legible : codec.Legible (depth + 1) := .record members_legible

end RpcOptions

namespace MessageOptions

def memberNames : List MemberName := [.same "digest", ⟨"hashFunc", "hash_func"⟩]

theorem members_faithful {part : ρ → MessageOptions} (record : ρ) :
    (members part).Faithful memberNames record (part record) :=
  .and (.and .none (.optional fun digest _ => bytes_restores digest))
    (.optional fun hash _ => hash_restores hash)

theorem members_legible {part : ρ → MessageOptions} : (members part).Legible depth :=
  .and (.and .none (.optional bytes_legible)) (.optional hash_legible)

theorem codec_restores (options : MessageOptions) : codec.Restores options :=
  .record (members_faithful options) (by decide)

theorem codec_legible : codec.Legible (depth + 1) := .record members_legible

end MessageOptions

namespace SignOptions

/-- The options with the deadline that its text says. -/
def received? (options : SignOptions) : Option SignOptions :=
  options.toRpcOptions.received?.map fun toRpcOptions => { options with toRpcOptions }

theorem received?_of_inMinutes {options : SignOptions} (whole : options.toRpcOptions.InMinutes) :
    options.received? = some options := by
  rw [received?, RpcOptions.received?_of_inMinutes whole]
  rfl

theorem codec_sends (options : SignOptions) : codec.Sends options options.received? := by
  have sends : codec.Sends options _ :=
    .record (.and (.and .none (MessageOptions.members_faithful options))
    (RpcOptions.members_convey SignOptions.toRpcOptions options)) (by decide)
  exact sends

theorem codec_restores {options : SignOptions} (whole : options.toRpcOptions.InMinutes) :
    codec.Restores options :=
  (codec_sends options).restores (received?_of_inMinutes whole)

theorem codec_yields : codec.Yields fun options => options.toRpcOptions.InMinutes := by
  intro tree options read
  obtain ⟨given, read⟩ := record_read read
  simp only [Members.and_read_eq_ok, Members.none_read_eq_ok] at read
  obtain ⟨_, rpc, ⟨_, message, rfl, _, rfl⟩, last, rfl⟩ := read
  exact RpcOptions.members_inMinutes last

theorem codec_legible : codec.Legible (depth + 1) :=
  .record (.and (.and .none MessageOptions.members_legible) RpcOptions.members_legible)

end SignOptions

theorem Method.codec_restores (method : Method) : codec.Restores method :=
  named_restores (by cases method <;> decide)

theorem InitOptions.codec_restores (init : InitOptions) : codec.Restores init :=
  .record (.and (.and (.and .none (.defaulted (text_restores init.protocolVersion)))
    (.defaulted (text_restores init.keyResourceId))) (.defaulted (hash_restores init.hashFunc)))
      (by decide)

theorem InitOptions.codec_legible : codec.Legible (depth + 1) :=
  .record (.and (.and (.and .none (.defaulted text_legible)) (.defaulted text_legible))
    (.defaulted hash_legible))

theorem Blank.codec_restores (blank : Blank) : codec.Restores blank :=
  .record .none (by decide)

theorem Blank.codec_legible : codec.Legible (depth + 1) := .record .none

namespace CreateKeyArgs

def InMinutes (args : CreateKeyArgs) : Prop := ∀ t ∈ args.ctxDeadline, t.InMinutes

/-- The arguments with the deadline that its text says. -/
def received? (args : CreateKeyArgs) : Option CreateKeyArgs :=
  (args.ctxDeadline.mapM Time.Timestamp.received?).map fun ctxDeadline => { args with ctxDeadline }

theorem received?_of_inMinutes {args : CreateKeyArgs} (whole : args.InMinutes) :
    args.received? = some args := by
  rw [received?, Time.Timestamp.mapM_received? whole]
  rfl

theorem codec_sends (args : CreateKeyArgs) : codec.Sends args args.received? := by
  have sends : codec.Sends args _ := .record (.and (.and .none (.optional fun t _ => time_sends t))
    (Members.Faithful.required (text_restores args.algorithm))) (by decide)
  rw [received?]
  cases received : args.ctxDeadline.mapM Time.Timestamp.received? with
  | none =>
    rw [received] at sends
    exact sends
  | some ctxDeadline =>
    rw [received] at sends
    exact sends

theorem codec_restores {args : CreateKeyArgs} (whole : args.InMinutes) : codec.Restores args :=
  (codec_sends args).restores (received?_of_inMinutes whole)

theorem codec_yields : codec.Yields InMinutes := by
  intro tree args read
  obtain ⟨given, read⟩ := record_read read
  simp only [Members.and_read_eq_ok, Members.none_read_eq_ok] at read
  obtain ⟨_, algorithm, ⟨_, deadline, rfl, first, rfl⟩, _, rfl⟩ := read
  exact Members.optional_yields time_yields first

theorem codec_legible : codec.Legible (depth + 1) :=
  .record (.and (.and .none (.optional time_legible)) (.required text_legible))

end CreateKeyArgs

namespace PublicKeyArgs

def InMinutes (args : PublicKeyArgs) : Prop := args.publicKeyOptions.InMinutes

/-- The arguments with the deadline that its text says. -/
def received? (args : PublicKeyArgs) : Option PublicKeyArgs :=
  args.publicKeyOptions.received?.map PublicKeyArgs.mk

theorem received?_of_inMinutes {args : PublicKeyArgs} (whole : args.InMinutes) :
    args.received? = some args :=
  congrArg (Option.map PublicKeyArgs.mk) (RpcOptions.received?_of_inMinutes whole)

theorem codec_sends (args : PublicKeyArgs) : codec.Sends args args.received? := by
  have sends : codec.Sends args _ :=
    .record (.and .none (.defaulted (RpcOptions.codec_sends args.publicKeyOptions)))
    (by decide)
  exact sends

theorem codec_restores {args : PublicKeyArgs} (whole : args.InMinutes) : codec.Restores args :=
  (codec_sends args).restores (received?_of_inMinutes whole)

theorem codec_yields : codec.Yields InMinutes := by
  intro tree args read
  obtain ⟨given, read⟩ := record_read read
  simp only [Members.and_read_eq_ok, Members.none_read_eq_ok] at read
  obtain ⟨_, options, rfl, first, rfl⟩ := read
  exact Members.defaulted_yields RpcOptions.codec_yields (by simp [RpcOptions.InMinutes]) first

theorem codec_legible : codec.Legible (depth + 2) :=
  .record (.and .none (.defaulted RpcOptions.codec_legible))

end PublicKeyArgs

namespace SignMessageArgs

def InMinutes (args : SignMessageArgs) : Prop := args.signOptions.toRpcOptions.InMinutes

/-- The arguments with the deadline that its text says. -/
def received? (args : SignMessageArgs) : Option SignMessageArgs :=
  args.signOptions.received?.map SignMessageArgs.mk

theorem received?_of_inMinutes {args : SignMessageArgs} (whole : args.InMinutes) :
    args.received? = some args :=
  congrArg (Option.map SignMessageArgs.mk) (SignOptions.received?_of_inMinutes whole)

theorem codec_sends (args : SignMessageArgs) : codec.Sends args args.received? := by
  have sends : codec.Sends args _ :=
    .record (.and .none (.defaulted (SignOptions.codec_sends args.signOptions)))
    (by decide)
  exact sends

theorem codec_restores {args : SignMessageArgs} (whole : args.InMinutes) : codec.Restores args :=
  (codec_sends args).restores (received?_of_inMinutes whole)

theorem codec_yields : codec.Yields InMinutes := by
  intro tree args read
  obtain ⟨given, read⟩ := record_read read
  simp only [Members.and_read_eq_ok, Members.none_read_eq_ok] at read
  obtain ⟨_, options, rfl, first, rfl⟩ := read
  exact Members.defaulted_yields SignOptions.codec_yields (by simp [RpcOptions.InMinutes]) first

theorem codec_legible : codec.Legible (depth + 2) :=
  .record (.and .none (.defaulted SignOptions.codec_legible))

end SignMessageArgs

namespace VerifySignatureArgs

def InMinutes (args : VerifySignatureArgs) : Prop := args.verifyOptions.toRpcOptions.InMinutes

/-- The arguments with the deadline that its text says. -/
def received? (args : VerifySignatureArgs) : Option VerifySignatureArgs :=
  args.verifyOptions.received?.map (VerifySignatureArgs.mk args.signature)

theorem received?_of_inMinutes {args : VerifySignatureArgs} (whole : args.InMinutes) :
    args.received? = some args :=
  congrArg (Option.map (VerifySignatureArgs.mk args.signature))
    (SignOptions.received?_of_inMinutes whole)

theorem codec_sends (args : VerifySignatureArgs) : codec.Sends args args.received? := by
  have sends : codec.Sends args _ := .record (.and (.and .none
    (Members.Faithful.required (bytes_restores args.signature)))
    (.defaulted (SignOptions.codec_sends args.verifyOptions))) (by decide)
  exact sends

theorem codec_restores {args : VerifySignatureArgs} (whole : args.InMinutes) :
    codec.Restores args :=
  (codec_sends args).restores (received?_of_inMinutes whole)

theorem codec_yields : codec.Yields InMinutes := by
  intro tree args read
  obtain ⟨given, read⟩ := record_read read
  simp only [Members.and_read_eq_ok, Members.none_read_eq_ok] at read
  obtain ⟨_, options, ⟨_, signature, rfl, _, rfl⟩, last, rfl⟩ := read
  exact Members.defaulted_yields SignOptions.codec_yields (by simp [RpcOptions.InMinutes]) last

theorem codec_legible : codec.Legible (depth + 2) :=
  .record (.and (.and .none (.required bytes_legible)) (.defaulted SignOptions.codec_legible))

end VerifySignatureArgs

namespace MethodDraft

/-- All deadlines have offsets of whole minutes. -/
structure InMinutes (draft : MethodDraft) : Prop where
  createKey : ∀ args ∈ draft.createKey, args.InMinutes
  publicKey : ∀ args ∈ draft.publicKey, args.InMinutes
  signMessage : ∀ args ∈ draft.signMessage, args.InMinutes
  verifySignature : ∀ args ∈ draft.verifySignature, args.InMinutes

def memberNames : List MemberName := ⟨"methodName", "method_name"⟩ :: Method.all.map Method.member

/-- The draft with the deadlines that their texts say. -/
def received? (draft : MethodDraft) : Option MethodDraft :=
  (draft.createKey.mapM CreateKeyArgs.received?).bind fun createKey =>
    (draft.publicKey.mapM PublicKeyArgs.received?).bind fun publicKey =>
      (draft.signMessage.mapM SignMessageArgs.received?).bind fun signMessage =>
        (draft.verifySignature.mapM VerifySignatureArgs.received?).map fun verifySignature =>
          { draft with createKey, publicKey, signMessage, verifySignature }

theorem members_convey (draft : MethodDraft) :
    members.Conveys memberNames draft draft.received? := by
  have conveys : members.Conveys memberNames draft _ :=
    .and (.and (.and (.and (.and (.and (.and .none
    (Members.Faithful.required (Method.codec_restores draft.method)))
    (Members.Faithful.optional fun args _ => Blank.codec_restores args))
    (Members.Faithful.optional fun args _ => Blank.codec_restores args))
    (.optional fun args _ => CreateKeyArgs.codec_sends args))
    (.optional fun args _ => PublicKeyArgs.codec_sends args))
    (.optional fun args _ => SignMessageArgs.codec_sends args))
    (.optional fun args _ => VerifySignatureArgs.codec_sends args)
  rw [received?]
  cases create : draft.createKey.mapM CreateKeyArgs.received? <;>
    cases key : draft.publicKey.mapM PublicKeyArgs.received? <;>
      cases sign : draft.signMessage.mapM SignMessageArgs.received? <;>
        rw [create, key, sign] at conveys <;> exact conveys

theorem codec_sends (draft : MethodDraft) : codec.Sends draft draft.received? :=
  .record (members_convey draft) (by decide)

theorem codec_yields : codec.Yields InMinutes := by
  intro tree draft read
  obtain ⟨given, read⟩ := record_read read
  simp only [members, Members.and_read_eq_ok, Members.none_read_eq_ok] at read
  obtain ⟨_, verify, ⟨_, sign,
    ⟨_, key, ⟨_, create, ⟨_, _, ⟨_, _, ⟨_, _, rfl, _, rfl⟩, _, rfl⟩, _, rfl⟩, creates, rfl⟩,
    keys, rfl⟩, signs, rfl⟩, verifies, rfl⟩ := read
  exact {
    createKey := Members.optional_yields CreateKeyArgs.codec_yields creates
    publicKey := Members.optional_yields PublicKeyArgs.codec_yields keys
    signMessage := Members.optional_yields SignMessageArgs.codec_yields signs
    verifySignature := Members.optional_yields VerifySignatureArgs.codec_yields verifies }

theorem members_legible : members.Legible (depth + 2) :=
  .and (.and (.and (.and (.and (.and (.and .none
    (.required named_legible))
    (.optional Blank.codec_legible))
    (.optional Blank.codec_legible))
    (.optional CreateKeyArgs.codec_legible))
    (.optional PublicKeyArgs.codec_legible))
    (.optional SignMessageArgs.codec_legible))
    (.optional VerifySignatureArgs.codec_legible)

theorem codec_legible : codec.Legible (depth + 3) := .record members_legible

theorem accept_eq_ok {draft : MethodDraft} {args : MethodArgs}
    (accepted : draft.accept = .ok args) :
    args.draft = draft := by
  unfold accept at accepted
  split at accepted <;> cases accepted <;> rfl

end MethodDraft

namespace MethodArgs

def InMinutes (args : MethodArgs) : Prop := args.draft.InMinutes

theorem inMinutes_defaultAlgorithm (args : Blank) : (defaultAlgorithm args).InMinutes := by
  constructor <;> simp [draft]

theorem inMinutes_supportedAlgorithms (args : Blank) : (supportedAlgorithms args).InMinutes := by
  constructor <;> simp [draft]

theorem inMinutes_createKey {args : CreateKeyArgs} (whole : args.InMinutes) :
    (createKey args).InMinutes := by
  constructor <;> simp [draft, whole]

theorem inMinutes_publicKey {args : PublicKeyArgs} (whole : args.InMinutes) :
    (publicKey args).InMinutes := by
  constructor <;> simp [draft, whole]

theorem inMinutes_signMessage {args : SignMessageArgs} (whole : args.InMinutes) :
    (signMessage args).InMinutes := by
  constructor <;> simp [draft, whole]

theorem inMinutes_verifySignature {args : VerifySignatureArgs} (whole : args.InMinutes) :
    (verifySignature args).InMinutes := by
  constructor <;> simp [draft, whole]

/-- The request with the deadline that its text says. -/
def received? : MethodArgs → Option MethodArgs
  | .createKey args => args.received?.map .createKey
  | .publicKey args => args.received?.map .publicKey
  | .signMessage args => args.received?.map .signMessage
  | .verifySignature args => args.received?.map .verifySignature
  | args => some args

theorem received?_of_inMinutes {args : MethodArgs} (whole : args.InMinutes) :
    args.received? = some args := by
  cases args with
  | defaultAlgorithm args => rfl
  | supportedAlgorithms args => rfl
  | createKey args =>
    exact congrArg (Option.map _) (CreateKeyArgs.received?_of_inMinutes (whole.createKey args rfl))
  | publicKey args =>
    exact congrArg (Option.map _) (PublicKeyArgs.received?_of_inMinutes (whole.publicKey args rfl))
  | signMessage args =>
    exact congrArg (Option.map _)
      (SignMessageArgs.received?_of_inMinutes (whole.signMessage args rfl))
  | verifySignature args =>
    exact congrArg (Option.map _)
      (VerifySignatureArgs.received?_of_inMinutes (whole.verifySignature args rfl))

private theorem received?_draft (args : MethodArgs) :
    (args.draft.received?.bind fun draft => draft.accept.toOption) = args.received? := by
  cases args with
  | defaultAlgorithm args => rfl
  | supportedAlgorithms args => rfl
  | createKey args =>
    simp only [received?, draft, MethodDraft.received?, Option.mapM_some]
    cases args.received? <;> rfl
  | publicKey args =>
    simp only [received?, draft, MethodDraft.received?, Option.mapM_some]
    cases args.received? <;> rfl
  | signMessage args =>
    simp only [received?, draft, MethodDraft.received?, Option.mapM_some]
    cases args.received? <;> rfl
  | verifySignature args =>
    simp only [received?, draft, MethodDraft.received?, Option.mapM_some]
    cases args.received? <;> rfl

theorem codec_sends (args : MethodArgs) : codec.Sends args args.received? :=
  received?_draft args ▸ .refine (MethodDraft.codec_sends args.draft)

theorem codec_restores {args : MethodArgs} (whole : args.InMinutes) : codec.Restores args :=
  (codec_sends args).restores (received?_of_inMinutes whole)

theorem codec_yields : codec.Yields InMinutes := by
  intro tree args read
  obtain ⟨draft, yields, accepted⟩ := refine_read read
  unfold InMinutes
  rw [MethodDraft.accept_eq_ok accepted]
  exact MethodDraft.codec_yields yields

theorem codec_legible : codec.Legible (depth + 3) := .refine MethodDraft.codec_legible

end MethodArgs

namespace PluginArgs

def InMinutes (args : PluginArgs) : Prop := args.methodArgs.InMinutes

theorem codec_yields : codec.Yields InMinutes := by
  intro tree args read
  obtain ⟨given, read⟩ := record_read (Checked.mapCause_eq_ok.mp read)
  simp only [Members.and_read_eq_ok, Members.none_read_eq_ok] at read
  obtain ⟨_, methodArgs, ⟨_, init, rfl, _, rfl⟩, last, rfl⟩ := read
  exact Members.required_yields MethodArgs.codec_yields last

theorem codec_legible : codec.Legible (depth + 3) := by
  intro style args member written
  rcases List.mem_append.mp written with front | back
  · exact MethodArgs.codec_legible style args.methodArgs member front
  · rw [List.mem_singleton.mp back]
    exact InitOptions.codec_legible style args.initOptions

/-- Parting undoes joining: the binding comes out of the members in either spelling. -/
private theorem part_join {members : Json.Members} {binding : Json} (style : Style)
    (present : binding ≠ .null)
    (noBinding : ∀ member ∈ members, member.1 ≠ bindingMember.camel ∧
    member.1 ≠ bindingMember.plain)
    (noArgs : ∀ member ∈ members, member.1 ≠ argsMember.camel ∧ member.1 ≠ argsMember.plain) :
    part (members ++ [(bindingMember.spelled style, binding)]) =
      [("init_options", binding), ("method_args", .obj members)] := by
  have camel := Json.Members.find?_eq_none fun member listed => (noBinding member listed).1
  have plain := Json.Members.find?_eq_none fun member listed => (noBinding member listed).2
  have camelArgs := Json.Members.find?_eq_none fun member listed => (noArgs member listed).1
  have plainArgs := Json.Members.find?_eq_none fun member listed => (noArgs member listed).2
  have keepsCamel := Json.Members.without_eq_self fun member listed => (noBinding member listed).1
  have keepsPlain := Json.Members.without_eq_self fun member listed => (noBinding member listed).2
  simp only [bindingMember, argsMember] at camel plain camelArgs plainArgs keepsCamel keepsPlain
  have notNested : ∀ spelling, (spelling = "initOptions" ∨ spelling = "init_options") →
      ((Json.Members.find? (members ++ [(spelling, binding)]) "method_args").isSome ||
        (Json.Members.find? (members ++ [(spelling, binding)]) "methodArgs").isSome) = false := by
    rintro spelling (rfl | rfl) <;> simp [Json.Members.find?_concat, camelArgs, plainArgs]
  unfold part bindingMember MemberName.spelled
  by_cases camelCase : style.camel
  · rw [if_pos camelCase, notNested _ (.inl rfl), if_neg (by decide)]
    simp only [Json.Members.find?_concat, Json.Members.without_concat, if_true, keepsCamel,
      List.append_nil, Option.getD_some]
  · rw [if_neg camelCase, notNested _ (.inr rfl), if_neg (by decide)]
    simp [Json.Members.find?_concat, Json.Members.without_concat, camel, keepsCamel, keepsPlain]

private theorem nested_read {binding method : Json} {init : InitOptions}
    {received : Option MethodArgs} (first : InitOptions.codec.read binding = .ok init)
    (second : (MethodArgs.codec.read method).toOption = received) :
    (nested.read (.obj [("init_options", binding), ("method_args", method)])).toOption =
      received.map (PluginArgs.mk init) := by
  have found : given? bindingMember [("init_options", binding), ("method_args", method)] =
      some ("init_options", binding) := rfl
  have found' : given? argsMember [("init_options", binding), ("method_args", method)] =
      some ("method_args", method) := rfl
  simp only [nested, Codec.record, Members.and, Members.none, Members.required, found, found',
    first, Checked.toOption_both, Checked.toOption_within, second]
  rfl

theorem codec_sends (args : PluginArgs) :
    codec.Sends args (args.methodArgs.received?.map (PluginArgs.mk args.initOptions)) := by
  intro style
  obtain ⟨entries, names, writes, _⟩ := MethodDraft.members_convey args.methodArgs.draft style
  have other {name : MemberName} (apart : ∀ known ∈ MethodDraft.memberNames, name.Apart known) :
      ∀ member ∈ MethodDraft.members.write style args.methodArgs.draft,
        member.1 ≠ name.camel ∧ member.1 ≠ name.plain := by
    rw [writes]
    intro member found
    obtain ⟨entry, listed, same⟩ := Entry.spelled_of_written found
    rw [same]
    exact (apart entry.1 (names ▸ List.mem_map_of_mem listed)).spelled style
  obtain ⟨notNull, binding⟩ := InitOptions.codec_restores args.initOptions style
  have method := (MethodArgs.codec_sends args.methodArgs style).2
  have parted := part_join style notNull
    (other (by decide : ∀ known ∈ MethodDraft.memberNames, bindingMember.Apart known))
    (other (by decide : ∀ known ∈ MethodDraft.memberNames, argsMember.Apart known))
  refine ⟨by simp [codec, MethodArgs.codec, Codec.refine, MethodDraft.codec,
    Codec.record, join], ?_⟩
  have joined : codec.write style args =
      .obj (MethodDraft.members.write style args.methodArgs.draft ++
      [(bindingMember.spelled style, InitOptions.codec.write style args.initOptions)]) := rfl
  rw [joined]
  simp only [codec, Checked.toOption_mapCause, parted]
  exact nested_read binding method

theorem codec_restores {args : PluginArgs} (whole : args.InMinutes) : codec.Restores args :=
  (codec_sends args).restores (by rw [MethodArgs.received?_of_inMinutes whole]; rfl)

end PluginArgs

theorem DefaultAlgorithmResp.codec_restores (reply : DefaultAlgorithmResp) : codec.Restores reply :=
  .record (.and .none (.required (text_restores reply.defaultAlgorithm))) (by decide)

theorem DefaultAlgorithmResp.codec_legible : codec.Legible (depth + 1) :=
  .record (.and .none (.required text_legible))

theorem SupportedAlgorithmsResp.codec_restores (reply : SupportedAlgorithmsResp) :
    codec.Restores reply :=
  .record (.and .none (.required (.list fun name _ => text_restores name))) (by decide)

theorem SupportedAlgorithmsResp.codec_legible : codec.Legible (depth + 2) :=
  .record (.and .none (.required (.list text_legible)))

theorem KeyResp.codec_restores (reply : KeyResp) : codec.Restores reply :=
  .record (.and .none (.required (bytes_restores reply.publicKeyPem))) (by decide)

theorem KeyResp.codec_legible : codec.Legible (depth + 1) :=
  .record (.and .none (.required bytes_legible))

theorem SignMessageResp.codec_restores (reply : SignMessageResp) : codec.Restores reply :=
  .record (.and .none (.required (bytes_restores reply.signature))) (by decide)

theorem SignMessageResp.codec_legible : codec.Legible (depth + 1) :=
  .record (.and .none (.required bytes_legible))

theorem PluginResp.codec_restores (reply : PluginResp) : codec.Restores reply :=
  .record (.and (.and (.and (.and (.and (.and (.and .none
    (.optional fun message _ => text_restores message))
    (.optional fun result _ => DefaultAlgorithmResp.codec_restores result))
    (.optional fun result _ => SupportedAlgorithmsResp.codec_restores result))
    (.optional fun result _ => KeyResp.codec_restores result))
    (.optional fun result _ => KeyResp.codec_restores result))
    (.optional fun result _ => SignMessageResp.codec_restores result))
    (.optional fun result _ => Blank.codec_restores result)) (by decide)

theorem PluginResp.codec_legible : codec.Legible (depth + 3) :=
  .record (.and (.and (.and (.and (.and (.and (.and .none
    (.optional text_legible))
    (.optional DefaultAlgorithmResp.codec_legible))
    (.optional SupportedAlgorithmsResp.codec_legible))
    (.optional KeyResp.codec_legible))
    (.optional KeyResp.codec_legible))
    (.optional SignMessageResp.codec_legible))
    (.optional Blank.codec_legible))

end Message
end SignerPlugin
