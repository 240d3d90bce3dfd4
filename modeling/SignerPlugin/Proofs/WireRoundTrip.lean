import SignerPlugin.Proofs.MessageCodecs

/-! The wire keeps messages: whatever value a form reads out of some input, it reads again out
of each of the four texts that are written of it. -/

namespace SignerPlugin

namespace Json

/-- Somewhere in the tree a member of an object is null. -/
inductive HasNullMember : Json → Prop
  | here {name : String} {members : Members} (member : (name, .null) ∈ members) :
      HasNullMember (.obj members)
  | member {name : String} {tree : Json} {members : Members} (member : (name, tree) ∈ members)
      (inside : HasNullMember tree) : HasNullMember (.obj members)
  | item {tree : Json} {items : List Json} (member : tree ∈ items) (inside : HasNullMember tree) :
      HasNullMember (.arr items)

private theorem Legible.noNullMember {depth : Nat} {tree : Json}
    (legible : Legible false depth tree) : ¬ tree.HasNullMember := by
  intro found
  induction found generalizing depth with
  | here member =>
    cases depth with
    | zero =>
      obtain rfl := legible
      cases member
    | succ depth =>
      have null := legible _ member
      cases depth <;> cases null
  | member member _ ih =>
    cases depth with
    | zero =>
      obtain rfl := legible
      cases member
    | succ depth => exact ih (legible _ member)
  | item member _ ih =>
    cases depth with
    | zero =>
      obtain rfl := legible
      cases member
    | succ depth => exact ih (legible _ member)

end Json

namespace Schema.Form

variable {α : Type} {form : Form α} {value : α}

/-- Some input is decoded to the value: a text, or a tree that comes from no text. -/
def Yields (form : Form α) (value : α) : Prop :=
  (∃ text, form.decode text = .ok value) ∨ ∃ tree, form.ofTree tree = .ok value

/-- A value comes back from each dump, as a text or as a tree, and its text on the wire is
free of nulls and written again just as it was. -/
structure RoundTrips (form : Form α) (value : α) : Prop where
  wire : form.decode (Bytes.ofText (form.encode value)) = .ok value
  dumps : ∀ style, form.decode (Bytes.ofText (Json.render (form.toTree style value))) = .ok value
  trees : ∀ style, form.ofTree (form.toTree style value) = .ok value
  nullFree : ∃ tree, Json.parse? (Bytes.ofText (form.encode value)) = some tree ∧
    ¬ tree.HasNullMember
  reproduced : ∀ again, form.decode (Bytes.ofText (form.encode value)) = .ok again →
    form.encode again = form.encode value

theorem conclude_eq_ok {outcome : Checked α} : form.conclude outcome = .ok value ↔
    outcome = .ok value := by
  cases outcome <;> simp [conclude]

theorem decode_eq_ok {text : Bytes} :
    form.decode text = .ok value ↔ ∃ tree, Json.parse? text = some tree ∧
      form.codec.read tree = .ok value := by
  unfold decode
  split
  · rename_i tree parsed
    simp [conclude_eq_ok, parsed]
  · rename_i none
    simp [none]

theorem ofTree_eq_ok {tree : Json} :
    form.ofTree tree = .ok value ↔ form.codec.read tree = .ok value :=
  conclude_eq_ok.trans Checked.mapCause_eq_ok

theorem Yields.read (yields : form.Yields value) : ∃ tree, form.codec.read tree = .ok value := by
  rcases yields with ⟨text, decoded⟩ | ⟨tree, decoded⟩
  · obtain ⟨tree, _, read⟩ := decode_eq_ok.mp decoded
    exact ⟨tree, read⟩
  · exact ⟨tree, ofTree_eq_ok.mp decoded⟩

theorem toOption_conclude (outcome : Checked α) :
    (form.conclude outcome).toOption = outcome.toOption := by
  cases outcome <;> rfl

/-- What is read of a value's text on the wire is the value received. -/
theorem toOption_decode_encode (legible : form.codec.Legible Json.wirePolicy.depth)
    {received : Option α} (sends : form.codec.Sends value received) :
    (form.decode (Bytes.ofText (form.encode value))).toOption = received := by
  rw [decode, encode, Json.parse?_render (legible .wire value)]
  exact (toOption_conclude _).trans (sends .wire).2

theorem roundTrips (legible : form.codec.Legible Json.wirePolicy.depth)
    (restores : form.codec.Restores value) :
    form.RoundTrips value := by
  have dumps (style : Style) :
      form.decode (Bytes.ofText (Json.render (form.toTree style value))) = .ok value :=
    decode_eq_ok.mpr ⟨_, Json.parse?_render (legible style value), (restores style).2⟩
  exact {
    wire := dumps .wire
    dumps
    trees := fun style => ofTree_eq_ok.mpr (restores style).2
    nullFree := ⟨_, Json.parse?_render (legible .wire value), (legible .wire value).noNullMember⟩
    reproduced := fun again decoded => by
      obtain rfl : value = again := Except.ok.inj ((dumps .wire).symm.trans decoded)
      rfl }

/-- A form whose texts are legible and which restores whatever it reads. -/
structure Keeps (form : Form α) : Prop where
  legible : form.codec.Legible Json.wirePolicy.depth
  restores : ∀ tree value, form.codec.read tree = .ok value → form.codec.Restores value

/-- It is enough to restore the values with a property that all values have which are read. -/
theorem Keeps.of_yields {property : α → Prop} (legible : form.codec.Legible Json.wirePolicy.depth)
    (yields : form.codec.Yields property)
    (restores : ∀ {value}, property value → form.codec.Restores value) :
    form.Keeps :=
  ⟨legible, fun _ _ read => restores (yields read)⟩

theorem Keeps.roundTrips (keeps : form.Keeps) (yields : form.Yields value) :
    form.RoundTrips value := by
  obtain ⟨tree, read⟩ := yields.read
  exact Form.roundTrips keeps.legible (keeps.restores tree value read)

end Schema.Form

namespace Message

open Schema

/-- The forms of all messages and of their parts. -/
def forms : List ((α : Type) × Form α) :=
  [⟨_, InitOptions.form⟩, ⟨_, RpcOptions.form⟩, ⟨_, MessageOptions.form⟩,
    ⟨_, PublicKeyOptions.form⟩, ⟨_, SignOptions.form⟩, ⟨_, VerifyOptions.form⟩,
    ⟨_, DefaultAlgorithmArgs.form⟩, ⟨_, SupportedAlgorithmsArgs.form⟩, ⟨_, CreateKeyArgs.form⟩,
    ⟨_, PublicKeyArgs.form⟩, ⟨_, SignMessageArgs.form⟩, ⟨_, VerifySignatureArgs.form⟩,
    ⟨_, MethodArgs.form⟩, ⟨_, PluginArgs.form⟩, ⟨_, DefaultAlgorithmResp.form⟩,
    ⟨_, SupportedAlgorithmsResp.form⟩, ⟨_, CreateKeyResp.form⟩, ⟨_, PublicKeyResp.form⟩,
    ⟨_, SignMessageResp.form⟩, ⟨_, VerifySignatureResp.form⟩, ⟨_, PluginResp.form⟩]

private theorem forms_keep : ∀ entry ∈ forms, entry.2.Keeps := by
  simp only [forms, List.forall_mem_cons, List.not_mem_nil, false_implies, implies_true, and_true]
  refine ⟨?_, ?_, ?_, ?_, ?_, ?_, ?_, ?_, ?_, ?_, ?_, ?_, ?_, ?_, ?_, ?_, ?_, ?_, ?_, ?_, ?_⟩
  · exact ⟨InitOptions.codec_legible, fun _ init _ => InitOptions.codec_restores init⟩
  · exact .of_yields RpcOptions.codec_legible RpcOptions.codec_yields RpcOptions.codec_restores
  · exact ⟨MessageOptions.codec_legible, fun _ options _ => MessageOptions.codec_restores options⟩
  · exact .of_yields RpcOptions.codec_legible RpcOptions.codec_yields RpcOptions.codec_restores
  · exact .of_yields SignOptions.codec_legible SignOptions.codec_yields SignOptions.codec_restores
  · exact .of_yields SignOptions.codec_legible SignOptions.codec_yields SignOptions.codec_restores
  · exact ⟨Blank.codec_legible, fun _ args _ => Blank.codec_restores args⟩
  · exact ⟨Blank.codec_legible, fun _ args _ => Blank.codec_restores args⟩
  · exact .of_yields CreateKeyArgs.codec_legible CreateKeyArgs.codec_yields
      CreateKeyArgs.codec_restores
  · exact .of_yields PublicKeyArgs.codec_legible PublicKeyArgs.codec_yields
      PublicKeyArgs.codec_restores
  · exact .of_yields SignMessageArgs.codec_legible SignMessageArgs.codec_yields
      SignMessageArgs.codec_restores
  · exact .of_yields VerifySignatureArgs.codec_legible VerifySignatureArgs.codec_yields
      VerifySignatureArgs.codec_restores
  · exact .of_yields MethodArgs.codec_legible MethodArgs.codec_yields MethodArgs.codec_restores
  · exact .of_yields PluginArgs.codec_legible PluginArgs.codec_yields PluginArgs.codec_restores
  · exact ⟨DefaultAlgorithmResp.codec_legible,
      fun _ reply _ => DefaultAlgorithmResp.codec_restores reply⟩
  · exact ⟨SupportedAlgorithmsResp.codec_legible,
      fun _ reply _ => SupportedAlgorithmsResp.codec_restores reply⟩
  · exact ⟨KeyResp.codec_legible, fun _ reply _ => KeyResp.codec_restores reply⟩
  · exact ⟨KeyResp.codec_legible, fun _ reply _ => KeyResp.codec_restores reply⟩
  · exact ⟨SignMessageResp.codec_legible, fun _ reply _ => SignMessageResp.codec_restores reply⟩
  · exact ⟨Blank.codec_legible, fun _ reply _ => Blank.codec_restores reply⟩
  · exact ⟨PluginResp.codec_legible, fun _ reply _ => PluginResp.codec_restores reply⟩

private theorem MethodArgs.of_payload (args : MethodArgs) :
    ∃ payload, args.payload? = some payload ∧ of payload = .ok args := by
  cases args <;> exact ⟨_, rfl, rfl⟩

/-- Every value that a form reads comes back from all that is written of it; and the arguments
of a request alone make that request again. -/
theorem forms_round_trip :
    (∀ entry ∈ forms, ∀ value, entry.2.Yields value → entry.2.RoundTrips value) ∧
    ∀ args : MethodArgs, ∃ payload, args.payload? = some payload ∧
      MethodArgs.of payload = .ok args := by
  refine ⟨?_, MethodArgs.of_payload⟩
  intro entry member value yields
  exact (forms_keep entry member).roundTrips yields

theorem forms_round_trip_createKey :
    MethodArgs.form.RoundTrips (.createKey
      { ctxDeadline := some ⟨2026, 1, 2, 3, 4, 5, 250000, some ⟨-5400000000, by decide⟩, by decide⟩
        algorithm := "a\n\"é" }) := by
  refine forms_round_trip.1 ⟨_, MethodArgs.form⟩ ?_ _ (.inr ⟨.obj [("methodName", .str "createKey"),
    ("createKey", .obj [("ctx_deadline", .str "2026-01-02 03:04:05,25-0130"),
      ("algorithm", .str "a\n\"é"), ("other", .null)])], ?_⟩)
  · simp [forms]
  · rfl

end Message
end SignerPlugin
