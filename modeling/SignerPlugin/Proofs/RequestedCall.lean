import SignerPlugin.Client
import SignerPlugin.Plugin.Arguments
import SignerPlugin.Plugin.Dispatch
import SignerPlugin.Proofs.InvocationVerdict
import SignerPlugin.Proofs.OptionBags
import SignerPlugin.Proofs.WireRoundTrip

/-! What a signer can be asked, directly or by a request. All methods go the same way: the
call is unpacked from the request, its context is looked at, the signer answers, and the
answer is shown as the result of the method. -/

namespace SignerPlugin

open Message
open Text (CodeText Writable)

variable {σ τ α κ θ : Type}

/-- A failure of a named kind is never reported with an empty message. -/
theorem Fault.message_ne_nil {fault : Fault} (named : fault.label ≠ "") : fault.message ≠ [] := by
  unfold message
  split
  · simpa [CodeText.ofString, CodeText.ofChars] using named
  · assumption

theorem Fault.told_ne_empty {fault : Fault} {told : String} (filled : fault.message ≠ [])
    (tells : CodeText.ofString told = fault.message) : told ≠ "" := by
  rintro rfl
  exact filled tells.symm

/-- What a signer can be asked. -/
inductive Call (θ : Type := String)
  | defaultAlgorithm
  | supportedAlgorithms
  | createKey (ctx : CallContext) (algorithm : θ)
  | publicKey (options : List (SignerOption θ))
  | signMessage (message : Bytes) (options : List (SignerOption θ))
  | verifySignature (signature message : Bytes) (options : List (SignerOption θ))
  deriving DecidableEq, Repr

/-- What a signer can answer. -/
inductive Answer (κ : Type := PublicKey) (θ : Type := String)
  | algorithm (name : θ)
  | algorithms (names : List θ)
  | key (key : κ)
  | signature (signature : Bytes)
  | verified
  deriving DecidableEq, Repr

namespace Action

variable {β : Type}

/-- What an action answers from a state, with the state after it. -/
def outcome (action : Action σ α) (state : σ) : Except Fault α × σ := action.run.run state

theorem outcome_map (f : α → β) (action : Action σ α) (state : σ) :
    outcome (f <$> action) state = ((action.outcome state).1.map f, (action.outcome state).2) := by
  simp only [outcome, ExceptT.run_map, StateT.run_map]
  rfl

/-- What is made of an answer alone may fail, but does not act. -/
theorem outcome_ofExcept (action : Action σ α) (make : α → Except Fault β) (state : σ) :
    outcome (do ofExcept id (make (← action))) state =
      ((action.outcome state).1.bind make, (action.outcome state).2) := by
  simp only [outcome, ExceptT.run_bind, StateT.run_bind]
  rcases action.run.run state with ⟨fault | a, after⟩
  · rfl
  · cases made : make a <;> simp [ofExcept, made, Except.bind, bind, pure] <;> rfl

end Action

namespace Signer

/-- The answer of a signer to a call. -/
def answer (signer : Signer σ κ) : Call → Action σ (Answer κ CodeText)
  | .defaultAlgorithm => .algorithm <$> signer.defaultAlgorithm
  | .supportedAlgorithms => .algorithms <$> signer.supportedAlgorithms
  | .createKey ctx algorithm => .key <$> signer.createKey ctx algorithm
  | .publicKey options => .key <$> signer.publicKey options
  | .signMessage message options => .signature <$> signer.signMessage message options
  | .verifySignature signature message options =>
    (fun _ => .verified) <$> signer.verifySignature signature message options

/-- Every failure is of a kind that has a name, also that of showing a key. -/
structure NamesFaults [PemKey κ] (signer : Signer σ κ) : Prop where
  answers : ∀ call state fault, ((signer.answer call).outcome state).1 = .error fault →
    fault.label ≠ ""
  keys : ∀ (key : κ) fault, PemKey.toPem key = .error fault → fault.label ≠ ""

/-- Every key that is answered has a text, and is the one that this text is loaded as. -/
def KeysReload [PemKey κ] (signer : Signer σ κ) : Prop :=
  ∀ call state key, ((signer.answer call).outcome state).1 = .ok (.key key) →
    ∃ pem, PemKey.toPem key = .ok pem ∧ PemKey.ofPem pem = .ok key

end Signer

namespace Call

/-- The context that the call runs under. -/
def context : Call θ → CallContext
  | .createKey ctx _ => ctx
  | .publicKey options => (OptionValues.ofOptions options).ctx
  | .signMessage _ options => (OptionValues.ofOptions options).ctx
  | .verifySignature _ _ options => (OptionValues.ofOptions options).ctx
  | _ => .background

/-- Options about a message are only for calls that have one. -/
def Accepted : Call θ → Prop
  | .publicKey options => ∃ bag, Options.packPublicKey options = .ok bag
  | _ => True

/-- The method that a call is about. -/
def method : Call θ → Method
  | .defaultAlgorithm => .defaultAlgorithm
  | .supportedAlgorithms => .supportedAlgorithms
  | .createKey _ _ => .createKey
  | .publicKey _ => .publicKey
  | .signMessage _ _ => .signMessage
  | .verifySignature _ _ _ => .verifySignature

/-- The message that the call is about, if there is one. -/
def message : Call θ → Bytes
  | .signMessage message _ => message
  | .verifySignature _ message _ => message
  | _ => []

/-- The options that the call is made with. -/
def options : Call θ → List (SignerOption θ)
  | .publicKey options => options
  | .signMessage _ options => options
  | .verifySignature _ _ options => options
  | _ => []

/-- The arguments that the call is packed as. -/
def payload : Call θ → Except (MisplacedOption θ) (Payload θ)
  | .defaultAlgorithm => .ok ⟨.defaultAlgorithm, Blank.mk⟩
  | .supportedAlgorithms => .ok ⟨.supportedAlgorithms, Blank.mk⟩
  | .createKey ctx algorithm =>
    .ok ⟨.createKey, CreateKeyArgs.mk (ctx.deadline.map (·.timestamp)) algorithm⟩
  | .publicKey options =>
    (Options.packPublicKey options).map fun bag => ⟨.publicKey, PublicKeyArgs.mk bag⟩
  | .signMessage _ options => .ok ⟨.signMessage, SignMessageArgs.mk (Options.packSign options)⟩
  | .verifySignature signature _ options =>
    .ok ⟨.verifySignature, VerifySignatureArgs.mk signature (Options.packVerify options)⟩

/-- The request that is made for the call. -/
def request : Call θ → Except (MisplacedOption θ) (MethodArgs θ)
  | .defaultAlgorithm => .ok (.defaultAlgorithm {})
  | .supportedAlgorithms => .ok (.supportedAlgorithms {})
  | .createKey ctx algorithm =>
    .ok (.createKey { ctxDeadline := ctx.deadline.map (·.timestamp), algorithm })
  | .publicKey options => (Options.packPublicKey options).map fun bag => .publicKey ⟨bag⟩
  | .signMessage _ options => .ok (.signMessage ⟨Options.packSign options⟩)
  | .verifySignature signature _ options =>
    .ok (.verifySignature { signature, verifyOptions := Options.packVerify options })

/-- The request for an accepted call is the one that its arguments make. -/
theorem request_of_accepted {call : Call θ} (accepted : call.Accepted) :
    ∃ payload args, call.payload = .ok payload ∧ MethodArgs.of payload = .ok args ∧
      call.request = .ok args := by
  cases call with
  | publicKey options =>
    obtain ⟨bag, packed⟩ := accepted
    exact ⟨⟨.publicKey, PublicKeyArgs.mk bag⟩,
      .publicKey ⟨bag⟩, by rw [Call.payload, packed]; rfl, rfl,
      by rw [request, packed]; rfl⟩
  | _ => exact ⟨_, _, rfl, rfl, rfl⟩

/-- The request for a public key has the bag that its options are packed as. -/
theorem request_publicKey {options : List (SignerOption θ)} {args : MethodArgs θ}
    (requests : (Call.publicKey options).request = .ok args) :
    ∃ bag, Options.packPublicKey options = .ok bag ∧ args = .publicKey ⟨bag⟩ := by
  obtain ⟨bag, packed, same⟩ := map_eq_ok.mp requests
  exact ⟨bag, packed, same.symm⟩

theorem method_of_request {call : Call θ} {args : MethodArgs θ}
    (requests : call.request = .ok args) :
    args.method = call.method := by
  cases call with
  -- Only these options can be refused.
  | publicKey options =>
    obtain ⟨bag, -, rfl⟩ := request_publicKey requests
    rfl
  | _ =>
    cases requests
    rfl

theorem request_of_not_accepted {call : Call θ} (refused : ¬ call.Accepted) :
    ∃ option, call.request = .error option := by
  cases call with
  | publicKey options =>
    cases packed : Options.packPublicKey options with
    | ok bag => exact absurd ⟨bag, packed⟩ refused
    | error option => exact ⟨option, by rw [request, packed]; rfl⟩
  | _ => exact absurd trivial refused

end Call

namespace Client

variable [PemKey κ] [Writable θ]

/-- A call of any kind, through the client's method for it. -/
def ask (client : Client θ) (launch : Command.Launch τ) (now : Instant) :
    Call θ → StateM τ (Except (ClientError θ) (Answer κ))
  | .defaultAlgorithm => do
    return (← client.defaultAlgorithm launch now).result.map .algorithm
  | .supportedAlgorithms => do
    return (← client.supportedAlgorithms launch now).result.map .algorithms
  | .createKey ctx algorithm => do
    return (← client.createKey launch now ctx algorithm).result.map .key
  | .publicKey options => do
    return (← client.publicKey launch now options).result.map .key
  | .signMessage message options => do
    return (← client.signMessage launch now message options).result.map .signature
  | .verifySignature signature message options => do
    return (← client.verifySignature launch now signature message options).result.map
      fun _ => .verified

/-- The answer to a call, taken out of a reply. -/
def read (client : Client θ) : Call θ → PluginResp → Except (ClientError θ) (Answer κ)
  | .defaultAlgorithm, reply =>
    ((client.part .defaultAlgorithm reply.defaultAlgorithm).map (·.defaultAlgorithm)).map .algorithm
  | .supportedAlgorithms, reply =>
    ((client.part .supportedAlgorithms reply.supportedAlgorithms).map
      (·.supportedAlgorithms)).map .algorithms
  | .createKey _ _, reply => (client.part .createKey reply.createKey >>= keyOf).map .key
  | .publicKey _, reply => (client.part .publicKey reply.publicKey >>= keyOf).map .key
  | .signMessage _ _, reply =>
    ((client.part .signMessage reply.signMessage).map (·.signature)).map .signature
  | .verifySignature _ _ _, _ => .ok .verified

theorem call_map {β : Type} (client : Client θ) (launch : Command.Launch τ) (ctx : CallContext)
    (now : Instant) (stdin : Bytes) (args : MethodArgs θ)
    (read : PluginResp → Except (ClientError θ) α) (make : α → β) :
    (do return (← client.call launch ctx now stdin args read).result.map make :
      StateM τ (Except (ClientError θ) β)) = do
      let outcome ← Invocation.invoke launch client.plugin ctx now stdin client.init args
      return match outcome.result with
        | .ok reply => (read reply).map make
        | .error error => .error (.invocation error) := by
  simp only [call, bind_assoc, pure_bind]
  congr 1
  funext outcome
  cases outcome.result <;> rfl

/-- Calls of all kinds go the same way: the request is made, put to the plugin under the
context of the call, and the answer is taken out of the reply. -/
theorem ask_request (client : Client θ) (launch : Command.Launch τ) (now : Instant)
    (call : Call θ) :
    client.ask (κ := κ) launch now call = match call.request with
      | .error option => return .error (.misplaced option)
      | .ok args => do
        let outcome ← Invocation.invoke launch client.plugin call.context now call.message
          client.init args
        return match outcome.result with
          | .ok reply => client.read call reply
          | .error error => .error (.invocation error) := by
  cases call with
  | publicKey options =>
    simp only [ask, publicKey, Call.request]
    cases Options.packPublicKey options with
    | error option => rfl
    | ok bag => exact call_map ..
  | _ => exact call_map ..

end Client

/-- The call that a request asks for, with the message that stands on the input. A deadline
that names no instant asks for none. -/
def Message.MethodArgs.call (stdin : Bytes) : MethodArgs → Except UnawareDeadline Call
  | .defaultAlgorithm _ => .ok .defaultAlgorithm
  | .supportedAlgorithms _ => .ok .supportedAlgorithms
  | .createKey args =>
    (CallContext.ofTimestamp args.ctxDeadline).map fun ctx => .createKey ctx args.algorithm
  | .publicKey args => (Options.unpackPublicKey args.publicKeyOptions).map .publicKey
  | .signMessage args => (Options.unpackSign args.signOptions).map (.signMessage stdin)
  | .verifySignature args =>
    (Options.unpackVerify args.verifyOptions).map (.verifySignature args.signature stdin)

theorem Message.MethodArgs.method_call {args : MethodArgs} {stdin : Bytes} {call : Call}
    (asks : args.call stdin = .ok call) : call.method = args.method := by
  cases args with
  | defaultAlgorithm args =>
    cases asks
    rfl
  | supportedAlgorithms args =>
    cases asks
    rfl
  | createKey args =>
    obtain ⟨ctx, -, rfl⟩ := map_eq_ok.mp asks
    rfl
  | publicKey args =>
    obtain ⟨options, -, rfl⟩ := map_eq_ok.mp asks
    rfl
  | signMessage args =>
    obtain ⟨options, -, rfl⟩ := map_eq_ok.mp asks
    rfl
  | verifySignature args =>
    obtain ⟨options, -, rfl⟩ := map_eq_ok.mp asks
    rfl

namespace Answer

/-- The reply that shows an answer as the result of a method. -/
def reply [PemKey κ] (method : Method) : Answer κ θ → Except Fault (PluginResp θ)
  | .algorithm name => .ok { defaultAlgorithm := some ⟨name⟩ }
  | .algorithms names => .ok { supportedAlgorithms := some ⟨names⟩ }
  | .key made => (Plugin.written made).map fun shown =>
    if method = .createKey then { createKey := some shown } else { publicKey := some shown }
  | .signature bytes => .ok { signMessage := some ⟨bytes⟩ }
  | .verified => .ok { verifySignature := some {} }

/-- Whether an answer is of the kind that a method has. -/
def Fits : Answer κ θ → Method → Prop
  | .algorithm _, method => method = .defaultAlgorithm
  | .algorithms _, method => method = .supportedAlgorithms
  | .key _, method => method = .createKey ∨ method = .publicKey
  | .signature _, method => method = .signMessage
  | .verified, method => method = .verifySignature

/-- A reply that shows a fitting answer holds the result of the method and nothing else. -/
theorem reply_alone [PemKey κ] {answer : Answer κ θ} {method : Method} {reply : PluginResp θ}
    (fits : answer.Fits method) (shows : answer.reply method = .ok reply) :
    reply.errorMessage = none ∧ ∀ other, reply.has other ↔ other = method := by
  cases answer with
  | key made =>
    obtain ⟨shown, -, rfl⟩ := map_eq_ok.mp shows
    rcases fits with rfl | rfl
    · exact ⟨rfl, fun other => by cases other <;> simp [PluginResp.has]⟩
    · exact ⟨rfl, fun other => by cases other <;> simp [PluginResp.has]⟩
  | algorithm name =>
    obtain rfl := fits
    cases shows
    exact ⟨rfl, fun other => by cases other <;> simp [PluginResp.has]⟩
  | algorithms names =>
    obtain rfl := fits
    cases shows
    exact ⟨rfl, fun other => by cases other <;> simp [PluginResp.has]⟩
  | signature bytes =>
    obtain rfl := fits
    cases shows
    exact ⟨rfl, fun other => by cases other <;> simp [PluginResp.has]⟩
  | verified =>
    obtain rfl := fits
    cases shows
    exact ⟨rfl, fun other => by cases other <;> simp [PluginResp.has]⟩

/-- Only a key that cannot be shown keeps an answer from its reply. -/
theorem reply_eq_error [PemKey κ] {answer : Answer κ θ} {method : Method} {fault : Fault} :
    answer.reply method = .error fault ↔
      ∃ key, answer = .key key ∧ PemKey.toPem key = .error fault := by
  cases answer with
  | key made => simp [reply, Plugin.written, map_eq_error]
  | _ => exact ⟨nofun, nofun⟩

end Answer

/-- Every signer answers a call with what its method answers. -/
theorem Signer.answer_fits (signer : Signer σ κ) {call : Call} {state : σ}
    {answer : Answer κ CodeText}
    (answered : ((signer.answer call).outcome state).1 = .ok answer) : answer.Fits call.method := by
  have shown {α : Type} {f : α → Answer κ CodeText} {action : Action σ α}
      (same : ((f <$> action).outcome state).1 = .ok answer) : ∃ a, f a = answer := by
    rw [Action.outcome_map] at same
    obtain ⟨a, -, made⟩ := map_eq_ok.mp same
    exact ⟨a, made⟩
  cases call with
  | createKey ctx algorithm =>
    obtain ⟨made, rfl⟩ := shown answered
    exact .inl rfl
  | publicKey options =>
    obtain ⟨made, rfl⟩ := shown answered
    exact .inr rfl
  | _ =>
    obtain ⟨result, rfl⟩ := shown answered
    rfl

namespace Plugin

variable {signer : Signer σ κ} {now : Instant} {stdin : Bytes} {args : MethodArgs}

/-- The signer's answer to the call that a request asks for, unless the context of the call is
done. -/
def answer (signer : Signer σ κ) (now : Instant) (stdin : Bytes) (args : MethodArgs) :
    Action σ (Answer κ CodeText) := do
  let call ← Action.ofExcept unaware (args.call stdin)
  Action.under call.context now (signer.answer call)

/-- What a request comes to: it asks for no call, the context of its call is done, or the
signer is asked. -/
theorem answer_outcome (state : σ) :
    (answer signer now stdin args).outcome state =
      match args.call stdin with
      | .error fault => (.error (unaware fault), state)
      | .ok call => match call.context.err? now with
        | some reason => (.error ⟨reason.label, reason.message⟩, state)
        | none => (signer.answer call).outcome state := by
  unfold answer
  cases args.call stdin with
  | error fault => rfl
  | ok call =>
    simp only [Action.ofExcept, pure_bind, Action.under]
    cases call.context.err? now with
    | some reason => rfl
    | none => rfl

theorem answer_of_live {call : Call} (asks : args.call stdin = .ok call)
    (live : call.context.err? now = none) :
    answer signer now stdin args = signer.answer call := by
  simp only [answer, asks, Action.ofExcept, pure_bind, Action.under, live]

/-- The common course of all methods: something is unpacked from the request, its context is
looked at, an action is done with it, and the answer is shown. -/
theorem reply_answer [PemKey κ] {β γ : Type} {unpacked : Except UnawareDeadline β}
    {ctx : β → CallContext} {action : β → Action σ γ} {make : β → Call}
    {answered : γ → Answer κ CodeText} {shows : γ → Action σ (PluginResp CodeText)}
    (calls : args.call stdin = unpacked.map make) (contexts : ∀ b, (make b).context = ctx b)
    (answers : ∀ b, signer.answer (make b) = answered <$> action b)
    (shown : ∀ c, shows c = Action.ofExcept id ((answered c).reply args.method)) :
    (do
      let b ← Action.ofExcept unaware unpacked
      let c ← Action.under (ctx b) now (action b)
      shows c) = (do Action.ofExcept id ((← answer signer now stdin args).reply args.method)) := by
  rw [answer, calls]
  cases unpacked with
  | error fault => rfl
  | ok b =>
    simp only [Except.map, Action.ofExcept, pure_bind, contexts, answers, Action.under]
    -- A done context stops both sides before anything is shown.
    cases (ctx b).err? now with
    | some reason => rfl
    | none =>
      simp only [bind_map_left, shown]
      rfl

/-- The result of a method shows the signer's answer to the call that the request asks for. -/
theorem perform_eq_reply [PemKey κ] : perform signer now stdin args =
    (do Action.ofExcept id ((← answer signer now stdin args).reply args.method)) := by
  have pem {wrap : KeyResp → PluginResp CodeText} (made : κ) :
      (do return wrap (← Action.ofExcept id (written made)) : Action σ (PluginResp CodeText)) =
        Action.ofExcept id ((written made).map wrap) := by
    cases written made <;> rfl
  cases args with
  | defaultAlgorithm args =>
    rw [answer_of_live rfl rfl, Signer.answer, perform, bind_map_left]
    rfl
  | supportedAlgorithms args =>
    rw [answer_of_live rfl rfl, Signer.answer, perform, bind_map_left]
    rfl
  | createKey args => exact reply_answer rfl (fun _ => rfl) (fun _ => rfl) pem
  | publicKey args => exact reply_answer rfl (fun _ => rfl) (fun _ => rfl) pem
  | signMessage args => exact reply_answer rfl (fun _ => rfl) (fun _ => rfl) (fun _ => rfl)
  | verifySignature args => exact reply_answer rfl (fun _ => rfl) (fun _ => rfl) (fun _ => rfl)

/-- A request fails before the signer is asked, for its deadline or for the context of its
call, or comes to what the signer answers. -/
theorem answer_cases (signer : Signer σ κ) (now : Instant) (stdin : Bytes) (args : MethodArgs)
    (state : σ) :
    (∃ fault, (answer signer now stdin args).outcome state = (.error (unaware fault), state)) ∨
    (∃ reason : ContextError, (answer signer now stdin args).outcome state =
      (.error ⟨reason.label, reason.message⟩, state)) ∨
    ∃ call, args.call stdin = .ok call ∧
      (answer signer now stdin args).outcome state = (signer.answer call).outcome state := by
  rw [answer_outcome]
  cases args.call stdin with
  | error fault => exact .inl ⟨fault, rfl⟩
  | ok call =>
    simp only
    cases call.context.err? now with
    | some reason => exact .inr (.inl ⟨reason, rfl⟩)
    | none => exact .inr (.inr ⟨call, rfl, rfl⟩)

/-- What is answered to a request is the answer to its method. -/
theorem answer_fits {state : σ} {answer : Answer κ CodeText}
    (answered : ((Plugin.answer signer now stdin args).outcome state).1 =
    .ok answer) : answer.Fits args.method := by
  obtain ⟨fault, same⟩ | ⟨reason, same⟩ | ⟨call, asks, same⟩ :=
    answer_cases signer now stdin args state
  · rw [same] at answered
    cases answered
  · rw [same] at answered
    cases answered
  · rw [same] at answered
    rw [← MethodArgs.method_call asks]
    exact signer.answer_fits answered

/-- Every failure of a request has something to report. -/
theorem answer_fault_message [PemKey κ] (named : signer.NamesFaults) {state : σ} {fault : Fault}
    (failed : ((answer signer now stdin args).outcome state).1 = .error fault) :
    fault.message ≠ [] := by
  obtain ⟨deadline, same⟩ | ⟨reason, same⟩ | ⟨call, _, same⟩ :=
    answer_cases signer now stdin args state
  · rw [same] at failed
    cases failed
    exact Fault.message_ne_nil (show "invalid deadline" ≠ "" by decide)
  · rw [same] at failed
    cases failed
    cases reason <;> exact Fault.message_ne_nil (by decide)
  · rw [same] at failed
    exact Fault.message_ne_nil (named.answers call state fault failed)

/-- What a request comes to: the signer's answer as the result of the method, if it can be shown. -/
theorem perform_outcome [PemKey κ] (state : σ) :
    (perform signer now stdin args).outcome state =
      (((answer signer now stdin args).outcome state).1.bind (·.reply args.method),
        ((answer signer now stdin args).outcome state).2) := by
  rw [perform_eq_reply]
  exact Action.outcome_ofExcept ..

/-- The arguments of a command are parsed to the request that they were made of. -/
theorem parseArguments_command {init : InitOptions} (plugin : String)
    (version : init.protocolVersion = protocolVersion) (whole : args.InMinutes) :
    parseArguments (plugin :: (Invocation.command plugin stdin init args).arguments) =
      .ok ⟨init, args⟩ := by
  have envelope : PluginArgs.InMinutes ⟨init, args⟩ := whole
  have back : PluginArgs.form.decode (Bytes.ofText (PluginArgs.form.encode ⟨init, args⟩)) =
      .ok ⟨init, args⟩ :=
    (Schema.Form.roundTrips PluginArgs.codec_legible (PluginArgs.codec_restores envelope)).wire
  simp [Invocation.command, parseArguments, version, back]

theorem dispatch_outcome [PemKey κ] (state : σ) :
    (dispatch signer now stdin args).run state =
      ((telling ((perform signer now stdin args).outcome state).1).written.map
        PluginResp.form.encode, ((perform signer now stdin args).outcome state).2) := rfl

end Plugin
end SignerPlugin
