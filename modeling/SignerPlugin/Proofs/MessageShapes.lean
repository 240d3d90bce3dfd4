import SignerPlugin.Proofs.NamedMembers
import SignerPlugin.Proofs.ReplyParsing

/-! The shapes of messages. Every form decodes trees alike that differ only in what its shape
does not show: in the order of members, in members with other names, in repetitions that do
not count, and in the spelling of names. -/

namespace SignerPlugin.Message

open Schema Codec

variable {ρ : Type}

namespace RpcOptions

def shape : Shape := .record (Shape.scalars memberNames) []

theorem members_see (part : ρ → RpcOptions) : (members part).Sees (Shape.scalars memberNames) :=
  .and (.and (.and .none (.optional (sees_value _))) (.optional (sees_value _)))
    (.optional (sees_value _))

theorem codec_sees : codec.Sees shape := .record (members_see id) (by decide)

end RpcOptions

namespace MessageOptions

def shape : Shape := .record (Shape.scalars memberNames) []

theorem members_see (part : ρ → MessageOptions) : (members part).Sees (Shape.scalars memberNames) :=
  .and (.and .none (.optional (sees_value _))) (.optional (sees_value _))

theorem codec_sees : codec.Sees shape := .record (members_see id) (by decide)

end MessageOptions

namespace SignOptions

def shape : Shape :=
  .record (Shape.scalars MessageOptions.memberNames ++ Shape.scalars RpcOptions.memberNames) []

theorem codec_sees : codec.Sees shape :=
  .record (.and (.and .none (MessageOptions.members_see SignOptions.toMessageOptions))
    (RpcOptions.members_see SignOptions.toRpcOptions)) (by decide)

end SignOptions

namespace InitOptions

/-- The member that holds the version of the protocol. -/
def versionMember : MemberName := ⟨"protocolVersion", "protocol_version"⟩

def memberNames : List MemberName :=
  [versionMember, ⟨"keyResourceID", "key_resource_id"⟩, ⟨"hashFunc", "hash_func"⟩]

def shape : Shape := .record (Shape.scalars memberNames) []

theorem codec_sees : codec.Sees shape :=
  .record (.and (.and (.and .none (.defaulted (sees_value _))) (.defaulted (sees_value _)))
    (.defaulted (sees_value _)))
    (by decide)

end InitOptions

namespace Blank

def shape : Shape := .record [] []

theorem codec_sees : codec.Sees shape := .record .none (by decide)

end Blank

namespace CreateKeyArgs

def shape : Shape := .record (Shape.scalars [⟨"ctxDeadline", "ctx_deadline"⟩, .same "algorithm"]) []

theorem codec_sees : codec.Sees shape :=
  .record (.and (.and .none (.optional (sees_value _))) (.required (sees_value _))) (by decide)

end CreateKeyArgs

namespace PublicKeyArgs

def shape : Shape := .record [(⟨"publicKeyOptions", "public_key_options"⟩, RpcOptions.shape)] []

theorem codec_sees : codec.Sees shape :=
  .record (.and .none (.defaulted RpcOptions.codec_sees)) (by decide)

end PublicKeyArgs

namespace SignMessageArgs

def shape : Shape := .record [(⟨"signOptions", "sign_options"⟩, SignOptions.shape)] []

theorem codec_sees : codec.Sees shape :=
  .record (.and .none (.defaulted SignOptions.codec_sees)) (by decide)

end SignMessageArgs

namespace VerifySignatureArgs

def shape : Shape :=
  .record [(.same "signature", .value), (⟨"verifyOptions", "verify_options"⟩, SignOptions.shape)] []

theorem codec_sees : codec.Sees shape :=
  .record (.and (.and .none (.required (sees_value _))) (.defaulted SignOptions.codec_sees))
    (by decide)

end VerifySignatureArgs

namespace Method

/-- The shape of a method's arguments. -/
def argsShape : Method → Shape
  | .defaultAlgorithm => Blank.shape
  | .supportedAlgorithms => Blank.shape
  | .createKey => CreateKeyArgs.shape
  | .publicKey => PublicKeyArgs.shape
  | .signMessage => SignMessageArgs.shape
  | .verifySignature => VerifySignatureArgs.shape

end Method

namespace MethodArgs

def fields : List (MemberName × Shape) :=
  (Method.nameMember, .value) :: Method.all.map fun method => (method.member, method.argsShape)

def shape : Shape := .record fields []

theorem draft_members_see : MethodDraft.members.Sees fields :=
  .and (.and (.and (.and (.and
    (.and (.and .none (.required (sees_value _))) (.optional Blank.codec_sees))
    (.optional Blank.codec_sees)) (.optional CreateKeyArgs.codec_sees))
      (.optional PublicKeyArgs.codec_sees))
    (.optional SignMessageArgs.codec_sees)) (.optional VerifySignatureArgs.codec_sees)

theorem codec_sees : codec.Sees shape := .refine (.record draft_members_see (by decide))

end MethodArgs

namespace DefaultAlgorithmResp

def shape : Shape := .record (Shape.scalars [⟨"defaultAlgorithm", "default_algorithm"⟩]) []

theorem codec_sees : codec.Sees shape := .record (.and .none (.required (sees_value _))) (by decide)

end DefaultAlgorithmResp

namespace SupportedAlgorithmsResp

def shape : Shape := .record (Shape.scalars [⟨"supportedAlgorithms", "supported_algorithms"⟩]) []

theorem codec_sees : codec.Sees shape := .record (.and .none (.required (sees_value _))) (by decide)

end SupportedAlgorithmsResp

namespace KeyResp

def shape : Shape := .record (Shape.scalars [⟨"publicKeyPEM", "public_key_pem"⟩]) []

theorem codec_sees : codec.Sees shape := .record (.and .none (.required (sees_value _))) (by decide)

end KeyResp

namespace SignMessageResp

def shape : Shape := .record (Shape.scalars [.same "signature"]) []

theorem codec_sees : codec.Sees shape := .record (.and .none (.required (sees_value _))) (by decide)

end SignMessageResp

namespace Method

/-- The shape of a method's result. -/
def resultShape : Method → Shape
  | .defaultAlgorithm => DefaultAlgorithmResp.shape
  | .supportedAlgorithms => SupportedAlgorithmsResp.shape
  | .createKey => KeyResp.shape
  | .publicKey => KeyResp.shape
  | .signMessage => SignMessageResp.shape
  | .verifySignature => Blank.shape

end Method

namespace PluginResp

def shape : Shape :=
  .record ((errorMember, .value) :: Method.all.map
    fun method => (method.member, method.resultShape)) []

theorem codec_sees : codec.Sees shape :=
  .record (.and (.and (.and (.and (.and (.and (.and .none (.optional (sees_value _)))
    (.optional DefaultAlgorithmResp.codec_sees)) (.optional SupportedAlgorithmsResp.codec_sees))
    (.optional KeyResp.codec_sees)) (.optional KeyResp.codec_sees))
      (.optional SignMessageResp.codec_sees))
    (.optional Blank.codec_sees)) (by decide)

end PluginResp

namespace ErrorReply

def shape : Shape := .record (Shape.scalars [PluginResp.errorMember]) []

theorem codec_sees : codec.Sees shape := .record (.and .none (.optional (sees_value _))) (by decide)

end ErrorReply

namespace PluginArgs

/-- The shape of an envelope whose two parts are members of their own. -/
def nestedShape : Shape :=
  .record [(bindingMember, InitOptions.shape), (argsMember, MethodArgs.shape)] []

/-- The shape of an envelope with the members of its method beside the binding, for which null
gives way. A member for the arguments of the method would make it nested. -/
def flatShape : Shape :=
  .record ((bindingMember, InitOptions.shape) :: (argsMember, .value) :: MethodArgs.fields)
    [bindingMember]

/-- The shape that an envelope has. -/
def shape : Json → Shape
  | .obj members => if (counted? [] argsMember members).isSome then nestedShape else flatShape
  | _ => .value

private theorem nested_sees : nested.Sees nestedShape :=
  .record (.and (.and .none (.required InitOptions.codec_sees))
    (.required MethodArgs.codec_sees)) (by decide)

variable {members others : Json.Members}

theorem toOption_codec_nested (apart : (counted? [] argsMember members).isSome) :
    (codec.read (.obj members)).toOption = (nested.read (.obj members)).toOption := by
  have same : part members = members := by
    rw [counted?, if_neg List.not_mem_nil, Option.isSome_or, Bool.or_comm] at apart
    exact if_pos (by simpa [argsMember] using apart)
  have read : codec.read (.obj members) =
      (nested.read (.obj (part members))).mapCause Cause.ofValue := rfl
  rw [read, Checked.toOption_mapCause, same]

/-- A flat envelope is read as its binding and its request. -/
theorem toOption_codec_flat (flat : counted? [] argsMember members = none) :
    (codec.read (.obj members)).toOption =
      (InitOptions.codec.read ((counted? [bindingMember] bindingMember members).getD
        .null)).toOption.bind fun init =>
        (MethodArgs.codec.read (.obj members)).toOption.map (PluginArgs.mk init) := by
  obtain ⟨camel, plain⟩ := Option.or_eq_none_iff.mp flat
  have binding : counted? [bindingMember] bindingMember members = binding? members := rfl
  have stranger : ∀ left ∈ [bindingMember.camel, bindingMember.plain],
      ∀ name ∈ MethodDraft.memberNames,
      left ≠ name.camel ∧ left ≠ name.plain := by decide
  have method : MethodArgs.codec.read (.obj (methodPart members)) =
      MethodArgs.codec.read (.obj members) := by
    rw [methodPart, MethodArgs.read_without _ (stranger _ (by simp)),
      MethodArgs.read_without _ (stranger _ (by simp))]
  ext args
  rw [Checked.toOption_eq_some, flat_read_eq_ok camel plain, method, binding]
  simp only [Option.bind_eq_some_iff, Option.map_eq_some_iff, Checked.toOption_eq_some]
  constructor
  · rintro ⟨init, request⟩
    exact ⟨_, init, _, request, rfl⟩
  · rintro ⟨init, reads, request, reads', rfl⟩
    exact ⟨reads, reads'⟩

/-- What counts in a flat envelope is alike after a change, so it stays flat and its parts are
read as they were. -/
private theorem toOption_codec_of_flat_edit (flat : counted? [] argsMember members = none)
    (edit : flatShape.Edit (.obj members) (.obj others)) :
    (codec.read (.obj members)).toOption = (codec.read (.obj others)).toOption := by
  have counts (field : MemberName × Shape) (listed : field ∈ _) :=
    edit.counted? (by decide) (by decide) listed
  have ordinary (field : MemberName × Shape)
      (listed : field ∈ (argsMember, Shape.value) :: MethodArgs.fields) :
      Option.Rel field.2.Alike (counted? [] field.1 members) (counted? [] field.1 others) := by
    have strict : field.1 ∉ [bindingMember] := by
      have apart : ∀ name ∈ ((argsMember, Shape.value) :: MethodArgs.fields).map Prod.fst,
          name ∉ [bindingMember] := by
        decide
      exact apart _ (List.mem_map_of_mem listed)
    have alike := counts field (List.mem_cons_of_mem _ listed)
    rw [counted?, counted?, if_neg strict, if_neg strict] at alike
    rwa [counted?, counted?, if_neg List.not_mem_nil, if_neg List.not_mem_nil]
  have flat' : counted? [] argsMember others = none := by
    have same := rel_alike_isSome (ordinary (argsMember, .value) List.mem_cons_self)
    rw [flat] at same
    exact Option.not_isSome_iff_eq_none.mp (by simp [← same])
  have binding : (InitOptions.codec.read
      ((counted? [bindingMember] bindingMember members).getD .null)).toOption =
      (InitOptions.codec.read ((counted? [bindingMember] bindingMember others).getD
        .null)).toOption := by
    have alike : Option.Rel InitOptions.shape.Alike (counted? [bindingMember] bindingMember members)
        (counted? [bindingMember] bindingMember others) := counts _ List.mem_cons_self
    generalize counted? [bindingMember] bindingMember members = these at alike ⊢
    generalize counted? [bindingMember] bindingMember others = those at alike ⊢
    cases alike with
    | none => rfl
    | some same => exact InitOptions.codec_sees.alike same
  have request : (MethodArgs.codec.read (.obj members)).toOption =
      (MethodArgs.codec.read (.obj others)).toOption := by
    have drafts := MethodArgs.draft_members_see fun field listed =>
      ordinary field (List.mem_cons_of_mem _ listed)
    rw [MethodArgs.codec, Codec.refine, Checked.toOption_andThen, Checked.toOption_andThen]
    exact congrArg (Option.bind · _) drafts
  rw [toOption_codec_flat flat, toOption_codec_flat flat', binding, request]

theorem codec_sees {tree other : Json} (edit : (shape tree).Edit tree other) :
    (codec.read tree).toOption = (codec.read other).toOption := by
  cases tree with
  | obj members =>
    obtain ⟨_, others, ⟨⟩, rfl⟩ := edit.objects
    rw [shape] at edit
    split at edit
    · rename_i apart
      have counts : Option.Rel MethodArgs.shape.Alike (counted? [] argsMember members)
          (counted? [] argsMember others) :=
        edit.counted? (by decide) (List.nil_subset _)
          (List.mem_cons_of_mem _ (List.mem_singleton_self _))
      have apart' : (counted? [] argsMember others).isSome := by rwa [← rel_alike_isSome counts]
      rw [toOption_codec_nested apart, toOption_codec_nested apart', nested_sees edit]
    · rename_i flat
      exact toOption_codec_of_flat_edit (Option.not_isSome_iff_eq_none.mp flat) edit
  | _ => cases edit

end PluginArgs

/-- A form with the shape that a tree has for it. -/
structure View where
  Value : Type
  form : Form Value
  shape : Json → Shape

namespace View

/-- The tree was changed at one place that is looked at, in a way that makes no difference there. -/
def Edit (view : View) (tree other : Json) : Prop := (view.shape tree).Edit tree other

/-- A form that has one shape for all trees. -/
def plain {α : Type} (form : Form α) (shape : Shape) : View := ⟨α, form, fun _ => shape⟩

/-- Trees that differ in one change are decoded alike. -/
def Blind (view : View) : Prop :=
  ∀ ⦃tree other⦄, view.Edit tree other →
    (view.form.codec.read tree).toOption = (view.form.codec.read other).toOption

/-- Trees that differ in any number of changes, made or undone, are decoded alike, and so are
their texts. -/
theorem Blind.decoded_alike {view : View} (blind : view.Blind) {tree other : Json}
    (edits : Relation.EqvGen view.Edit tree other) :
    (view.form.ofTree tree).toOption = (view.form.ofTree other).toOption ∧
      ∀ text rewritten, Json.parse? text = some tree → Json.parse? rewritten = some other →
        (view.form.decode text).toOption = (view.form.decode rewritten).toOption := by
  have same : (view.form.ofTree tree).toOption = (view.form.ofTree other).toOption := by
    induction edits with
    | rel tree other edit =>
      simp only [Form.ofTree, Form.toOption_conclude, Checked.toOption_mapCause]
      exact blind edit
    | refl tree => rfl
    | symm tree other _ ih => exact ih.symm
    | trans first second third _ _ these those => exact these.trans those
  refine ⟨same, ?_⟩
  intro text rewritten parsed parsed'
  rw [Form.toOption_decode parsed, Form.toOption_decode parsed', same]

end View

/-- The forms of all messages and of their parts, with their shapes. -/
def views : List View :=
  [.plain InitOptions.form InitOptions.shape, .plain RpcOptions.form RpcOptions.shape,
    .plain MessageOptions.form MessageOptions.shape, .plain PublicKeyOptions.form RpcOptions.shape,
    .plain SignOptions.form SignOptions.shape, .plain VerifyOptions.form SignOptions.shape,
    .plain DefaultAlgorithmArgs.form Blank.shape, .plain SupportedAlgorithmsArgs.form Blank.shape,
    .plain CreateKeyArgs.form CreateKeyArgs.shape, .plain PublicKeyArgs.form PublicKeyArgs.shape,
    .plain SignMessageArgs.form SignMessageArgs.shape,
    .plain VerifySignatureArgs.form VerifySignatureArgs.shape,
    .plain MethodArgs.form MethodArgs.shape, ⟨_, PluginArgs.form, PluginArgs.shape⟩,
    .plain DefaultAlgorithmResp.form DefaultAlgorithmResp.shape,
    .plain SupportedAlgorithmsResp.form SupportedAlgorithmsResp.shape,
    .plain CreateKeyResp.form KeyResp.shape, .plain PublicKeyResp.form KeyResp.shape,
    .plain SignMessageResp.form SignMessageResp.shape,
    .plain VerifySignatureResp.form Blank.shape, .plain PluginResp.form PluginResp.shape,
    .plain ErrorReply.form ErrorReply.shape]

private theorem views_blind : ∀ view ∈ views, view.Blind := by
  simp only [views, List.forall_mem_cons, List.not_mem_nil, false_implies, implies_true, and_true]
  exact ⟨InitOptions.codec_sees, RpcOptions.codec_sees, MessageOptions.codec_sees,
    RpcOptions.codec_sees,
    SignOptions.codec_sees, SignOptions.codec_sees, Blank.codec_sees, Blank.codec_sees,
    CreateKeyArgs.codec_sees, PublicKeyArgs.codec_sees, SignMessageArgs.codec_sees,
    VerifySignatureArgs.codec_sees, MethodArgs.codec_sees,
    fun _ _ => PluginArgs.codec_sees, DefaultAlgorithmResp.codec_sees,
      SupportedAlgorithmsResp.codec_sees,
    KeyResp.codec_sees, KeyResp.codec_sees, SignMessageResp.codec_sees, Blank.codec_sees,
    PluginResp.codec_sees, ErrorReply.codec_sees⟩

/-- Decoding a message, or a part of one, depends on nothing but the members that count for
its names. At every place where a record is read, it makes no difference how distinct members
are ordered, whether there are members with names that mean nothing there, what stands in
front of a member under the same name, and which spelling a name has that stands there once;
beside the camel case spelling the other one is not looked at, whatever stands there, a null
included. Only the binding of a flat envelope is found in the other spelling if it is null in
camel case. Texts are decoded as the trees that they stand for, so all of this holds of them
too. -/
theorem forms_see_named :
    views.map (fun view => (⟨view.Value, view.form⟩ : (α : Type) × Form α)) = forms ++
      [⟨_, ErrorReply.form⟩] ∧
    ∀ view ∈ views, ∀ tree other, Relation.EqvGen view.Edit tree other →
      (view.form.ofTree tree).toOption = (view.form.ofTree other).toOption ∧
        ∀ text rewritten, Json.parse? text = some tree → Json.parse? rewritten = some other →
          (view.form.decode text).toOption = (view.form.decode rewritten).toOption :=
  ⟨rfl, fun view listed _ _ edits => (views_blind view listed).decoded_alike edits⟩

/-- A null binding gives way, a repeated member counts as it stands last, and a name is
respelled inside of a part. -/
theorem forms_see_named_envelope :
    let view : View := ⟨_, PluginArgs.form, PluginArgs.shape⟩
    let tree : Json :=
      .obj [("methodName", .str "createKey"),
      ("createKey", .obj [("algorithm", .str "ED25519")]), ("initOptions", .null),
      ("init_options", .obj [("keyResourceID", .str "k")])]
    let other : Json :=
      .obj [("other", .arr []), ("init_options", .obj [("key_resource_id", .str "k")]),
      ("method_name", .str "none"), ("methodName", .str "createKey"),
      ("createKey", .obj [("algorithm", .null), ("algorithm", .str "ED25519")])]
    let envelope : PluginArgs := ⟨{ keyResourceId := "k" }, .createKey { algorithm := "ED25519" }⟩
    view ∈ views ∧ Relation.EqvGen view.Edit tree other ∧
      PluginArgs.form.ofTree tree = .ok envelope ∧ PluginArgs.form.ofTree other = .ok envelope ∧
      Json.parse? (Bytes.ofText (Json.render tree)) = some tree ∧
      Json.parse? (Bytes.ofText (Json.render other)) = some other ∧
      (PluginArgs.form.decode (Bytes.ofText (Json.render other))).toOption = some envelope := by
  intro view tree other envelope
  have listed : view ∈ views := by simp [views, view]
  have flat {members others : Json.Members}
      (plain : counted? [] PluginArgs.argsMember members = none)
      (edit : PluginArgs.flatShape.Edit (.obj members) (.obj others)) :
      Relation.EqvGen view.Edit (.obj members) (.obj others) := by
    have shaped : PluginArgs.shape (.obj members) = PluginArgs.flatShape := by
      simp [PluginArgs.shape, plain]
    have changed : (PluginArgs.shape (.obj members)).Edit (.obj members) (.obj others) := by
      rwa [shaped]
    exact .rel _ _ changed
  let method : String × Json := ("methodName", .str "createKey")
  let algorithm : String × Json := ("algorithm", .str "ED25519")
  let args : String × Json := ("createKey", .obj [("algorithm", .null), algorithm])
  let binding : String × Json := ("init_options", .obj [("keyResourceID", .str "k")])
  let respelled : String × Json := ("init_options", .obj [("key_resource_id", .str "k")])
  have yielded : Relation.EqvGen view.Edit tree
      (.obj [method, ("createKey", .obj [algorithm]), binding]) :=
    flat rfl (.here (@Touched.yielded _ _ _ PluginArgs.bindingMember (by decide) rfl))
  have repeated : Relation.EqvGen view.Edit
      (.obj [method, ("createKey", .obj [algorithm]), binding])
      (.obj [method, args, binding]) :=
    flat rfl (@Shape.Edit.inside _ _ (Method.createKey.member, Method.createKey.argsShape)
      [method] _ _ _ _
      (by simp [MethodArgs.fields, Method.all]) (.inl rfl)
        (.here (@Touched.repeated _ _ [] _ _ _ (by decide))))
  have spelled : Relation.EqvGen view.Edit (.obj [method, args, binding])
      (.obj [method, args, respelled]) :=
    flat rfl (@Shape.Edit.inside _ _ (PluginArgs.bindingMember, InitOptions.shape)
      [method, args] _ _ _ _
      List.mem_cons_self (.inr rfl)
      (.here (@Touched.respelled _ _ [] [] ⟨"keyResourceID", "key_resource_id"⟩ _
        (by decide) (by decide)
        (.inl (by decide)))))
  have overruled : Relation.EqvGen view.Edit (.obj [method, args, respelled])
      (.obj [("method_name", .str "none"), method, args, respelled]) :=
    flat rfl (.here (@Touched.overruled _ _ [] _ Method.nameMember _ _ (by decide)
      (by decide) rfl (fun _ => nofun)))
  have stranger : Relation.EqvGen view.Edit
      (.obj [("method_name", .str "none"), method, args, respelled])
      (.obj [("other", .arr []), ("method_name", .str "none"), method, args, respelled]) :=
    flat rfl (.here (@Touched.stranger _ _ [] _ _ _ (by decide)))
  have reordered : Relation.EqvGen view.Edit
      (.obj [("other", .arr []), ("method_name", .str "none"), method, args, respelled]) other := by
    refine flat rfl (.here (.reordered (by decide) (.cons _ ?_)))
    exact @List.perm_append_comm _ [("method_name", .str "none"), method, args] [respelled]
  have edits : Relation.EqvGen view.Edit tree other :=
    .trans _ _ _ (.trans _ _ _
      (.trans _ _ _ (.trans _ _ _ (.trans _ _ _ yielded repeated) spelled) overruled) stranger)
      reordered
  have legible : Json.Legible true Json.wirePolicy.depth tree := by
    simp [Json.Legible, Json.wirePolicy, tree]
  have parsed : Json.parse? (Bytes.ofText (Json.render tree)) = some tree :=
    Json.parse?_render legible
  have legible' : Json.Legible true Json.wirePolicy.depth other := by
    simp [Json.Legible, Json.wirePolicy, other]
  have parsed' : Json.parse? (Bytes.ofText (Json.render other)) = some other :=
    Json.parse?_render legible'
  have accepted : PluginArgs.form.ofTree tree = .ok envelope := rfl
  have decoded : (PluginArgs.form.decode (Bytes.ofText (Json.render tree))).toOption =
      some envelope := by
    rw [Form.toOption_decode parsed, accepted]
    rfl
  obtain ⟨same, texts⟩ := forms_see_named.2 view listed tree other edits
  have accepted' : PluginArgs.form.ofTree other = .ok envelope := rfl
  exact ⟨listed, edits, accepted, accepted', parsed, parsed',
    (texts _ _ parsed parsed').symm.trans decoded⟩

/-- The last of two members of a name does not count any more in the other spelling: the first
one then has the camel case spelling for itself. -/
theorem respelled_last :
    let repeated : Json.Members := [("hashFunc", .int 5), ("hashFunc", .int 7)]
    let respelled : Json.Members := [("hashFunc", .int 5), ("hash_func", .int 7)]
    InitOptions.form.ofTree (.obj repeated) = .ok { hashFunc := .sha512 } ∧
      InitOptions.form.ofTree (.obj respelled) = .ok { hashFunc := .sha256 } ∧
      "hash_func" ∉ repeated.map Prod.fst := by
  refine ⟨?_, ?_, ?_⟩
  · rfl
  · rfl
  · decide

end SignerPlugin.Message
