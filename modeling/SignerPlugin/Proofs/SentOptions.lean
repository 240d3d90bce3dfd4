import SignerPlugin.Proofs.ClientFailures
import SignerPlugin.Proofs.LastOption

/-! What the options of a call come to on the wire. Each field goes by the last option about
it: the context that bounds the invocation, the deadline that is sent, and every other member
of the bag in the request. -/

namespace SignerPlugin

open Message Schema Command

namespace Json

/-- What stands at the end of a path of member names. -/
def at? : List String → Json → Option Json
  | [], tree => some tree
  | name :: path, .obj members => (Members.find? members name).bind (at? path)
  | _, _ => none

/-- A member that may be missing is found under its own name only. -/
theorem Members.find?_toList {α : Type} (found : Option α) (write : α → Json)
    (name other : String) :
    Members.find? (found.map fun value => (name, write value)).toList other =
      if name = other then found.map write else none := by
  cases found <;> simp [Members.find?]

end Json

theorem Schema.Members.optional_write_wire {ρ α : Type} (name : MemberName)
    (part : ρ → Option α) (codec : Codec α) (record : ρ) :
    (Members.optional name part codec).write .wire record =
      ((part record).map fun value => (name.camel, codec.write .wire value)).toList := by
  simp only [Members.optional]
  cases part record <;> rfl

/-- A call but for the options that it takes. -/
inductive OpenCall
  | publicKey
  | signMessage (message : Bytes)
  | verifySignature (signature message : Bytes)

namespace OpenCall

/-- The call with its options. -/
def taking : OpenCall → List SignerOption → Call
  | .publicKey => .publicKey
  | .signMessage message => .signMessage message
  | .verifySignature signature message => .verifySignature signature message

/-- Where a request has the options of the call. -/
def path : OpenCall → List String
  | .publicKey => ["publicKey", "publicKeyOptions"]
  | .signMessage _ => ["signMessage", "signOptions"]
  | .verifySignature _ _ => ["verifySignature", "verifyOptions"]

end OpenCall

namespace SignerOption

/-- The context that a list of options asks for. -/
def lastContext (options : List SignerOption) : CallContext :=
  (last? options .context).getD .background

/-- Members that hold for each field what the last option about it sets, and nothing if there
is none; for the context that is its deadline. -/
structure LastIn (options : List SignerOption) (members : Json.Members) : Prop where
  ctxDeadline : members.find? "ctxDeadline" = (lastContext options).deadline.map fun d =>
    .str d.timestamp.toText
  keyVersion : members.find? "keyVersion" = (last? options .keyVersion).map .str
  remoteVerification : members.find? "remoteVerification" =
    (last? options .remoteVerification).map .bool
  digest : members.find? "digest" = (last? options .digest).map fun bytes =>
    .str (Base64.encode bytes)
  hashFunc : members.find? "hashFunc" = (last? options .hashFunc).map fun hash =>
    .int (HashFunc.id hash)

theorem ctx_ofOptions (options : List SignerOption) :
    (OptionValues.ofOptions options).ctx = lastContext options :=
  congrArg (·.getD .background) (OptionValues.get_ofOptions options .context)

/-- It is enough that the members hold the values that the options set. -/
theorem LastIn.of_values {options : List SignerOption} {members : Json.Members}
    {values : OptionValues} (sets : OptionValues.ofOptions options = values)
    (ctxDeadline : members.find? "ctxDeadline" = values.ctx.deadline.map
    fun d => .str d.timestamp.toText)
    (keyVersion : members.find? "keyVersion" = values.keyVersion.map .str)
    (remoteVerification : members.find? "remoteVerification" =
    values.remoteVerification.map .bool)
    (digest : members.find? "digest" = values.digest.map fun bytes => .str
    (Base64.encode bytes)) (hashFunc : members.find? "hashFunc" = values.hashFunc.map
    fun hash => .int hash.id) : LastIn options members := by
  subst sets
  have last := OptionValues.get_ofOptions options
  refine ⟨?_, ?_, ?_, ?_, ?_⟩
  · rw [ctxDeadline, ctx_ofOptions]
  · rw [keyVersion, ← last .keyVersion]
    rfl
  · rw [remoteVerification, ← last .remoteVerification]
    rfl
  · rw [digest, ← last .digest]
    rfl
  · rw [hashFunc, ← last .hashFunc]
    rfl

end SignerOption

namespace Options

open SignerOption

/-- What is found in the members that are written of a bag for a call. -/
theorem find?_rpc {ρ : Type} (part : ρ → RpcOptions) (record : ρ) (name : String) :
    Json.Members.find? ((RpcOptions.members part).write .wire record) name =
      (if "remoteVerification" = name then (part record).remoteVerification.map .bool else none).or
        ((if "keyVersion" = name then (part record).keyVersion.map .str else none).or
          (if "ctxDeadline" = name then (part record).ctxDeadline.map (fun t => .str t.toText)
            else none)) := by
  simp only [RpcOptions.members, Schema.Members.and, Schema.Members.none,
    Schema.Members.optional_write_wire, List.nil_append, Json.Members.find?_append,
    Json.Members.find?_toList]
  rfl

/-- What is found in the members that are written of a bag for a message. -/
theorem find?_message {ρ : Type} (part : ρ → MessageOptions) (record : ρ) (name : String) :
    Json.Members.find? ((MessageOptions.members part).write .wire record) name =
      (if "hashFunc" = name then (part record).hashFunc.map (fun hash => .int hash.id) else none).or
        (if "digest" = name then (part record).digest.map
          (fun bytes => .str (Base64.encode bytes)) else none) := by
  simp only [MessageOptions.members, Schema.Members.and, Schema.Members.none,
    Schema.Members.optional_write_wire, List.nil_append, Json.Members.find?_append,
    Json.Members.find?_toList]
  rfl

private theorem lastIn_rpc {options : List SignerOption}
    (plain : ∀ option ∈ options, option.isMessageOption = false) :
    LastIn options ((RpcOptions.members id).write .wire (OptionValues.ofOptions options).rpc) := by
  have absent (field : Field) (about : ∀ value, (field.option value).isMessageOption) :
      (OptionValues.ofOptions options).get field = none := by
    rw [OptionValues.get_ofOptions]
    refine last?_eq_none.mpr fun value member => ?_
    have other := plain _ member
    rw [about value] at other
    cases other
  have digest : (OptionValues.ofOptions options).digest = none := absent .digest fun _ => rfl
  have hashFunc : (OptionValues.ofOptions options).hashFunc = none := absent .hashFunc fun _ => rfl
  refine .of_values rfl ?_ ?_ ?_ ?_ ?_
  · simp [find?_rpc, OptionValues.rpc_ctxDeadline, Function.comp_def]
  · simp [find?_rpc, OptionValues.rpc]
  · simp [find?_rpc, OptionValues.rpc]
  · simp [find?_rpc, digest]
  · simp [find?_rpc, hashFunc]

theorem lastIn_sign (options : List SignerOption) :
    LastIn options ((MessageOptions.members SignOptions.toMessageOptions).write .wire
      (packSign options) ++
      (RpcOptions.members SignOptions.toRpcOptions).write .wire (packSign options)) := by
  refine .of_values rfl ?_ ?_ ?_ ?_ ?_
  · simp [Json.Members.find?_append, find?_rpc, find?_message, packSign,
      OptionValues.rpc_ctxDeadline, Function.comp_def]
  · simp [Json.Members.find?_append, find?_rpc, find?_message, packSign, OptionValues.rpc]
  · simp [Json.Members.find?_append, find?_rpc, find?_message, packSign, OptionValues.rpc]
  · simp [Json.Members.find?_append, find?_rpc, find?_message, packSign, OptionValues.message]
  · simp [Json.Members.find?_append, find?_rpc, find?_message, packSign, OptionValues.message]

/-- The first option about a message is the one that is refused. -/
theorem packPublicKey_eq_error {options : List SignerOption} {misplaced : MisplacedOption} :
    packPublicKey options = .error misplaced ↔
      options.find? SignerOption.isMessageOption = some misplaced.option := by
  unfold packPublicKey packRpc OptionValues.ofCallOptions
  cases options.find? SignerOption.isMessageOption with
  | none => simp [Except.map]
  | some option =>
    obtain ⟨other⟩ := misplaced
    simp [Except.map]

end Options

namespace OpenCall

open SignerOption

variable {call : OpenCall} {options others : List SignerOption} {args : MethodArgs}

/-- The options of a call stand in its request, each field as the last option about it has it. -/
theorem lastIn_request (init : InitOptions) (requests : (call.taking options).request = .ok args) :
    ∃ members, Json.at? call.path (PluginArgs.codec.write .wire ⟨init, args⟩) =
      some (.obj members) ∧
      LastIn options members := by
  cases call with
  | publicKey =>
    obtain ⟨bag, packed, rfl⟩ := Call.request_publicKey requests
    obtain ⟨plain, rfl⟩ := Options.packRpc_eq_ok.mp packed
    exact ⟨_, rfl, Options.lastIn_rpc plain⟩
  | signMessage message =>
    cases requests
    exact ⟨_, rfl, Options.lastIn_sign options⟩
  | verifySignature signature message =>
    cases requests
    exact ⟨_, rfl, Options.lastIn_sign options⟩

theorem context_taking : (call.taking options).context = lastContext options := by
  cases call <;> exact ctx_ofOptions options

/-- The order of options about different fields makes no difference to the request. -/
theorem request_congr (accepted : (call.taking options).Accepted)
    (same : SameByField options others) :
    (call.taking others).Accepted ∧
      (call.taking others).request = (call.taking options).request := by
  have sets := OptionValues.ofOptions_congr same
  cases call with
  | publicKey =>
    obtain ⟨bag, packed⟩ := accepted
    obtain ⟨plain, rfl⟩ := Options.packRpc_eq_ok.mp packed
    have packed' : Options.packPublicKey others = .ok (OptionValues.ofOptions options).rpc :=
      Options.packRpc_eq_ok.mpr
        ⟨fun option member => plain option ((same.mem_iff option).mpr member), by rw [sets]⟩
    exact ⟨⟨_, packed'⟩, by rw [OpenCall.taking, Call.request, Call.request, packed, packed']⟩
  | signMessage message =>
    refine ⟨trivial, ?_⟩
    simp only [OpenCall.taking, Call.request, Options.packSign, sets]
  | verifySignature signature message =>
    refine ⟨trivial, ?_⟩
    simp only [OpenCall.taking, Call.request, Options.packVerify, Options.packSign, sets]

end OpenCall

namespace Client

open SignerOption

variable {τ κ : Type} [PemKey κ]

/-- The text that a client sends for a call. -/
def envelope (client : Client) (call : Call) : Except MisplacedOption String :=
  call.request.map fun args => PluginArgs.form.encode ⟨client.init, args⟩

/-- What a client does with a call: it invokes its plugin with the request and the envelope
for it, under the context of the last option about that, and in the envelope each field stands
as the last option about it has it. The deadline there is the one of the context, and is read
as that if its offset has whole minutes. -/
structure Sends (client : Client) (call : OpenCall) (options : List SignerOption)
    (args : MethodArgs) (envelope : String) : Prop where
  invokes : ∀ {τ κ : Type} [PemKey κ] (launch : Launch τ) (now : Instant),
    client.ask (κ := κ) launch now (call.taking options) = do
      let outcome ← Invocation.invoke launch client.plugin (lastContext options) now
        (call.taking options).message
        client.init args
      return match outcome.result with
        | .ok reply => client.read (call.taking options) reply
        | .error error => .error (.invocation error)
  arguments : (Invocation.command client.plugin (call.taking options).message client.init
    args).arguments = [client.init.protocolVersion, envelope]
  fields : ∃ tree members, Json.parse? (Bytes.ofText envelope) = some tree ∧
    Json.at? call.path tree = some (.obj members) ∧ LastIn options members
  deadline : ∀ d ∈ (lastContext options).deadline, d.timestamp.InMinutes →
    Codec.time.read (.str d.timestamp.toText) = .ok d.timestamp

theorem sends (client : Client) {call : OpenCall} {options : List SignerOption} {args : MethodArgs}
    (requests : (call.taking options).request = .ok args) :
    client.Sends call options args (PluginArgs.form.encode ⟨client.init, args⟩) := by
  have parsed : Json.parse? (Bytes.ofText (PluginArgs.form.encode ⟨client.init, args⟩)) =
      some (PluginArgs.codec.write .wire ⟨client.init, args⟩) :=
    Json.parse?_render (PluginArgs.codec_legible .wire _)
  obtain ⟨members, stands, last⟩ := OpenCall.lastIn_request client.init requests
  refine ⟨?_, rfl, ⟨_, members, parsed, stands, last⟩, ?_⟩
  · intro τ κ _ launch now
    have asked := client.ask_request (κ := κ) launch now (call.taking options)
    rw [requests, OpenCall.context_taking] at asked
    exact asked
  · intro d known whole
    have restores :=
      (Codec.time_sends d.timestamp).restores (Time.Timestamp.received?_of_inMinutes whole)
    have written : Codec.time.write .wire d.timestamp = .str d.timestamp.toText := rfl
    rw [← written]
    exact (restores .wire).2

/-- A call is refused for its options exactly if it has no message and one of them is about a
message; then no process is made. -/
theorem ask_publicKey_refused (client : Client) (launch : Launch τ) (now : Instant)
    (options : List SignerOption) (log : List Command) (world : τ) :
    let asked := (client.ask (κ := κ) (recording launch) now (.publicKey options)).run (log, world)
    ((∃ misplaced, asked.1 = .error (.misplaced misplaced)) ↔
      ∃ option ∈ options, option.isMessageOption) ∧
      ∀ misplaced, asked.1 = .error (.misplaced misplaced) → asked.2 = (log, world) := by
  intro asked
  have requests : (Call.publicKey options).request = (Options.packPublicKey options).map
      fun bag => .publicKey ⟨bag⟩ := rfl
  cases packed : Options.packPublicKey options with
  | error misplaced =>
    have found := Options.packPublicKey_eq_error.mp packed
    have refused : asked = (.error (.misplaced misplaced), log, world) := by
      simp only [asked, ask_request, requests, packed, Except.map]
      rfl
    rw [refused]
    exact ⟨iff_of_true ⟨misplaced, rfl⟩ ⟨_, List.mem_of_find?_eq_some found,
      List.find?_some found⟩, fun _ _ => rfl⟩
  | ok bag =>
    obtain ⟨plain, -⟩ := Options.packRpc_eq_ok.mp packed
    rw [packed] at requests
    have kept (misplaced : MisplacedOption) : asked.1 ≠ .error (.misplaced misplaced) := by
      obtain ⟨error, -, comes⟩ | ⟨_, result, -, -, comes⟩ :=
        client.ask_cases (κ := κ) (recording launch) now requests (log, world)
      · rw [comes]
        simp
      · rw [comes]
        cases ((Call.publicKey options).method.answer result : Except Fault (Answer κ)) <;>
          simp [Except.mapError]
    refine ⟨iff_of_false (fun ⟨misplaced, refused⟩ => kept misplaced refused) ?_,
      fun misplaced refused =>
      absurd refused (kept misplaced)⟩
    rintro ⟨option, member, about⟩
    rw [plain option member] at about
    cases about

/-- Of the options about one field the last one counts, wherever the others stand. An accepted
call is invoked under the context of the last option about that, or the background, and what
is sent says for each field what the last option about it says; lists with the same options
about each field in the same order are sent as the same text, and come to the same. A call
without message is refused exactly if an option anywhere in its list is about a message, and
then no process is made. -/
theorem options_lastWins (client : Client) (launch : Launch τ) (now : Instant) (call : OpenCall)
    (options : List SignerOption) (log : List Command) (world : τ) :
    ((call.taking options).Accepted →
      (∃ args envelope, client.envelope (call.taking options) = .ok envelope ∧
        client.Sends call options args envelope) ∧
      ∀ others, SameByField options others → (call.taking others).Accepted ∧
        client.envelope (call.taking others) = client.envelope (call.taking options) ∧
        lastContext others = lastContext options ∧
        client.ask (κ := κ) launch now (call.taking others) =
          client.ask launch now (call.taking options)) ∧
    let asked := (client.ask (κ := κ) (recording launch) now (.publicKey options)).run (log, world)
    ((∃ misplaced, asked.1 = .error (.misplaced misplaced)) ↔
      ∃ option ∈ options, option.isMessageOption) ∧
      ∀ misplaced, asked.1 = .error (.misplaced misplaced) → asked.2 = (log, world) := by
  refine ⟨fun accepted => ⟨?_, ?_⟩, client.ask_publicKey_refused launch now options log world⟩
  · obtain ⟨_, args, -, -, requests⟩ := Call.request_of_accepted accepted
    exact ⟨args, _, congrArg (Except.map _) requests, client.sends requests⟩
  · intro others same
    obtain ⟨accepted', requests⟩ := OpenCall.request_congr accepted same
    have context : lastContext others = lastContext options := by
      rw [lastContext, lastContext, last?, last?, same .context]
    have message : (call.taking others).message = (call.taking options).message := by
      cases call <;> rfl
    have read : client.read (κ := κ) (call.taking others) = client.read (call.taking options) := by
      cases call <;> rfl
    refine ⟨accepted', by rw [envelope, envelope, requests], context, ?_⟩
    rw [ask_request, ask_request, requests, OpenCall.context_taking, OpenCall.context_taking,
      context, message, read]

/-- A later context without deadline takes the deadline back, and an empty text is a text. -/
theorem options_lastWins_verifySignature :
    let deadline : Time.Deadline := ⟨⟨2024, 2, 29, 12, 0, 0, 0, some .utc, by decide⟩, rfl⟩
    let options : List SignerOption :=
      [.context { deadline := some deadline }, .keyVersion "1", .digest [],
      .context .background, .keyVersion ""]
    let others : List SignerOption := [.keyVersion "1", .digest [], .keyVersion "",
      .context { deadline := some deadline }, .context .background]
    let client : Client := { plugin := "plugin", init := {} }
    let launch : Launch Unit := fun _ _ => return { outcome := .failed "no such program" }
    (∃ envelope tree, ∃ members : Json.Members, client.envelope
      (.verifySignature [1] [2] options) = .ok envelope ∧
      client.envelope (.verifySignature [1] [2] others) = .ok envelope ∧
      Json.parse? (Bytes.ofText envelope) = some tree ∧
      Json.at? ["verifySignature", "verifyOptions"] tree = some (.obj members) ∧
      members.find? "ctxDeadline" = none ∧ members.find? "keyVersion" = some (.str "") ∧
      members.find? "digest" = some (.str "") ∧ members.find? "hashFunc" = none) ∧
    ∃ misplaced, ((client.ask (κ := PublicKey) (recording launch) 0 (.publicKey options)).run
      ([], ())).1 =
      .error (.misplaced misplaced) := by
  intro deadline options others client launch
  obtain ⟨sent, refused, -⟩ :=
    client.options_lastWins (κ := PublicKey) launch 0 (.verifySignature [1] [2]) options [] ()
  obtain ⟨⟨args, envelope, text, sends⟩, same⟩ := sent trivial
  obtain ⟨-, again, -⟩ := same others (fun field => by cases field <;> rfl)
  obtain ⟨tree, members, parsed, stands, last⟩ := sends.fields
  refine ⟨⟨envelope, tree, members, text, again.trans text, parsed, stands, last.ctxDeadline,
    last.keyVersion,
    last.digest, last.hashFunc⟩, refused.mpr ⟨.digest [], by simp [options], rfl⟩⟩

end Client
end SignerPlugin
