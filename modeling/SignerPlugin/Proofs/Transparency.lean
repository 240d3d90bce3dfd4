import SignerPlugin.Proofs.CallSessions
import SignerPlugin.Proofs.DispatchEffects

/-! A client whose process serves a signer is as good as the signer itself: each call reaches
it once, as it was made, and what it answers comes back, unless that is a text that cannot be
written. -/

namespace SignerPlugin

open Message
open Text (CodeText Writable)

variable {σ τ α κ θ : Type}

namespace Call

/-- The same call, up to options that make the same bag. -/
inductive Same : Call → Call → Prop
  | defaultAlgorithm : Same .defaultAlgorithm .defaultAlgorithm
  | supportedAlgorithms : Same .supportedAlgorithms .supportedAlgorithms
  | createKey (ctx : CallContext) (algorithm : String) :
      Same (.createKey ctx algorithm) (.createKey ctx algorithm)
  | publicKey {received sent : List SignerOption}
      (options : Options.packPublicKey received = Options.packPublicKey sent) :
      Same (.publicKey received) (.publicKey sent)
  | signMessage (message : Bytes) {received sent : List SignerOption}
      (options : Options.packSign received = Options.packSign sent) :
      Same (.signMessage message received) (.signMessage message sent)
  | verifySignature (signature message : Bytes) {received sent : List SignerOption}
      (options : Options.packVerify received = Options.packVerify sent) :
      Same (.verifySignature signature message received) (.verifySignature signature message sent)

/-- Calls that are packed as one request are the same if they are about one message under one
context. -/
theorem same_of_request {received sent : Call} {args : MethodArgs}
    (receives : received.request = .ok args) (sends : sent.request = .ok args)
    (message : received.message = sent.message) (context : received.context = sent.context) :
    received.Same sent := by
  have method : received.method = sent.method :=
    (method_of_request receives).symm.trans (method_of_request sends)
  have requests := receives.trans sends.symm
  cases sent with
  | defaultAlgorithm =>
    cases received with
    | defaultAlgorithm => exact .defaultAlgorithm
    | _ => cases method
  | supportedAlgorithms =>
    cases received with
    | supportedAlgorithms => exact .supportedAlgorithms
    | _ => cases method
  | createKey ctx algorithm =>
    cases received with
    | createKey other name =>
      obtain rfl : other = ctx := context
      obtain rfl : name = algorithm :=
        congrArg CreateKeyArgs.algorithm (MethodArgs.createKey.inj (Except.ok.inj requests))
      exact .createKey other name
    | _ => cases method
  | publicKey options =>
    cases received with
    | publicKey others =>
      obtain ⟨bag, packed, rfl⟩ := request_publicKey sends
      obtain ⟨again, repacked, same⟩ := request_publicKey receives
      cases same
      exact .publicKey (repacked.trans packed.symm)
    | _ => cases method
  | signMessage text options =>
    cases received with
    | signMessage other others =>
      obtain rfl : other = text := message
      exact .signMessage other
        (congrArg SignMessageArgs.signOptions (MethodArgs.signMessage.inj (Except.ok.inj requests)))
    | _ => cases method
  | verifySignature signature text options =>
    cases received with
    | verifySignature first other others =>
      obtain rfl : other = text := message
      have args := MethodArgs.verifySignature.inj (Except.ok.inj requests)
      obtain rfl : first = signature := congrArg VerifySignatureArgs.signature args
      exact .verifySignature first other (congrArg VerifySignatureArgs.verifyOptions args)
    | _ => cases method

private theorem message_of_request {call : Call} {args : MethodArgs}
    (requests : call.request = .ok args) : args.message call.message = call.message := by
  cases call with
  | publicKey options =>
    obtain ⟨bag, -, rfl⟩ := request_publicKey requests
    rfl
  | _ =>
    cases requests
    rfl

/-- A request under a context that is not cancelled asks for the call that it was made for. -/
private theorem exists_received {call : Call} {args : MethodArgs}
    (requests : call.request = .ok args) (running : call.context.cancelled = false) :
    ∃ received, args.call call.message = .ok received ∧ received.Same call ∧
      received.context = call.context := by
  have deadline := request_deadline requests
  obtain ⟨received, asks, runs⟩ := MethodArgs.call_aware deadline call.message
  obtain ⟨receives, message⟩ := MethodArgs.request_call deadline asks
  have context : received.context = call.context :=
    runs.context.trans (CallContext.eq_of_not_cancelled running).symm
  rw [message_of_request requests] at message
  exact ⟨received, asks, same_of_request receives requests message context, context⟩

end Call

namespace Signer

/-- An action before which a call is put on record. -/
def noting (call : Call) (action : Action σ α) : Action (List Call × σ) α :=
  ExceptT.mk fun (log, state) => ((action.outcome state).1, log ++ [call], (action.outcome state).2)

/-- The signer that also keeps a record of the calls that reach it. -/
def recorded (signer : Signer σ κ) : Signer (List Call × σ) κ where
  defaultAlgorithm := noting .defaultAlgorithm signer.defaultAlgorithm
  supportedAlgorithms := noting .supportedAlgorithms signer.supportedAlgorithms
  createKey ctx algorithm := noting (.createKey ctx algorithm) (signer.createKey ctx algorithm)
  publicKey options := noting (.publicKey options) (signer.publicKey options)
  signMessage message options :=
    noting (.signMessage message options) (signer.signMessage message options)
  verifySignature signature message options :=
    noting (.verifySignature signature message options)
      (signer.verifySignature signature message options)

theorem recorded_outcome (signer : Signer σ κ) (call : Call) (log : List Call) (state : σ) :
    (signer.recorded.answer call).outcome (log, state) =
      (((signer.answer call).outcome state).1, log ++ [call],
        ((signer.answer call).outcome state).2) := by
  cases call <;> simp only [answer, Action.outcome_map] <;> rfl

end Signer

namespace Answer

/-- The answer in strings, if there is one. -/
def written : Answer κ CodeText → Except Text.Unwritable (Answer κ)
  | .algorithm name => (Writable.written name).map .algorithm
  | .algorithms names => (names.mapM Writable.written).map .algorithms
  | .key made => .ok (.key made)
  | .signature bytes => .ok (.signature bytes)
  | .verified => .ok .verified

/-- A reply is written as the one that shows the answer in strings. -/
private theorem written_reply [PemKey κ] {answer : Answer κ CodeText} {method : Method}
    {reply : PluginResp CodeText} (shows : answer.reply method = .ok reply) :
    match answer.written with
    | .error fault => reply.written = .error fault
    | .ok known =>
      ∃ document, known.reply method = .ok document ∧ reply.written = .ok document := by
  cases answer with
  | algorithm name =>
    cases shows
    rw [written, PluginResp.written_algorithm]
    cases Writable.written name with
    | error fault => rfl
    | ok string => exact ⟨_, rfl, rfl⟩
  | algorithms names =>
    cases shows
    rw [written, PluginResp.written_algorithms]
    cases names.mapM Writable.written with
    | error fault => rfl
    | ok strings => exact ⟨_, rfl, rfl⟩
  | key made =>
    obtain ⟨shown, pem, rfl⟩ := map_eq_ok.mp shows
    refine ⟨if method = .createKey then { createKey := some shown }
      else { publicKey := some shown }, map_eq_ok.mpr ⟨shown, pem, rfl⟩, ?_⟩
    split <;> rfl
  | signature bytes =>
    cases shows
    exact ⟨_, rfl, rfl⟩
  | verified =>
    cases shows
    exact ⟨_, rfl, rfl⟩

private theorem key_of_written {answer : Answer κ CodeText} {key : κ}
    (writes : answer.written = .ok (.key key)) :
    answer = .key key := by
  cases answer with
  | algorithm name =>
    obtain ⟨_, -, same⟩ := map_eq_ok.mp writes
    cases same
  | algorithms names =>
    obtain ⟨_, -, same⟩ := map_eq_ok.mp writes
    cases same
  | key made =>
    cases writes
    rfl
  | _ => cases writes

theorem fits_written {answer : Answer κ CodeText} {known : Answer κ} {method : Method}
    (fits : answer.Fits method) (writes : answer.written = .ok known) : known.Fits method := by
  cases answer with
  | algorithm name =>
    obtain ⟨string, -, rfl⟩ := map_eq_ok.mp writes
    exact fits
  | algorithms names =>
    obtain ⟨strings, -, rfl⟩ := map_eq_ok.mp writes
    exact fits
  | _ =>
    cases writes
    exact fits

end Answer

namespace Plugin

/-- How a process ends that has a reply to write: without one it is stopped with an error. -/
def stops (words : List String) : Except Text.Unwritable String → Command.Ending
  | .ok document => .ofStatus words 0 (Bytes.ofText document)
  | .error _ => .ofStatus words 1 []

/-- A process that parses its arguments and serves the request in them. It may take some time. -/
def inProcess [PemKey κ] (signer : Signer σ κ) (now : Instant) (lasts : Nat) : Command.Launch σ :=
  fun _ command => do
    let words := command.name :: command.arguments
    match parseArguments words with
    | .error fault => return { lasts, outcome := .failed fault.message }
    | .ok args =>
      return { lasts, outcome := stops words (← dispatch signer now command.stdin args.methodArgs) }

/-- What the other side finds of what a process has to write. One that is stopped leaves no
reply. -/
def found (plugin : String) (method : Method) :
    Except Text.Unwritable String → Except InvocationError PluginResp
  | .ok document => Invocation.parseReply plugin method (Bytes.ofText document)
  | .error _ => .error (.emptyReply plugin)

private theorem verdict_stops (plugin : String) (method : Method) (words : List String)
    (document : Except Text.Unwritable String) :
    Invocation.verdict plugin method (stops words document) = found plugin method document := by
  cases document <;> rfl

private theorem found_failure (plugin : String) (method : Method) {fault : Fault}
    (filled : fault.message ≠ []) :
    found plugin method ((telling (.error fault)).written.map PluginResp.form.encode) =
      match Writable.written fault.message with
      | .ok message => .error (.returned message)
      | .error _ => .error (.emptyReply plugin) := by
  rw [telling, PluginResp.written_failure]
  cases text : Writable.written fault.message with
  | error unwritten => rfl
  | ok message =>
    exact Invocation.parseReply_failure
      (Fault.told_ne_empty filled (Writable.written_eq_ok.mp text))

private theorem found_answer [PemKey κ] (plugin : String) {method : Method}
    {answer : Answer κ CodeText} {reply : PluginResp CodeText} (fits : answer.Fits method)
    (shows : answer.reply method = .ok reply) :
    let left := found plugin method ((telling (.ok reply)).written.map PluginResp.form.encode)
    match answer.written with
    | .ok known => ∃ document, known.reply method = .ok document ∧ left = .ok document
    | .error _ => left = .error (.emptyReply plugin) := by
  intro left
  have writes := Answer.written_reply shows
  cases known : answer.written with
  | error fault =>
    rw [known] at writes
    simp only [left, telling, writes]
    rfl
  | ok known =>
    rw [known] at writes
    obtain ⟨document, shown, written⟩ := writes
    obtain ⟨quiet, alone⟩ := Answer.reply_alone (Answer.fits_written fits ‹_›) shown
    refine ⟨document, shown, ?_⟩
    simp only [left, telling, written]
    exact Invocation.parseReply_result quiet ((alone _).mpr rfl)

private theorem inProcess_outcome [PemKey κ] (signer : Signer σ κ) (now : Instant) (plugin : String)
    (stdin : Bytes) {init : InitOptions} {args : MethodArgs}
    (version : init.protocolVersion = protocolVersion) (whole : args.InMinutes)
    (limit : Option Nat) (lasts : Nat) (state : σ) :
    let command := Invocation.command plugin stdin init args
    let dispatched := (dispatch signer now stdin args).run state
    (inProcess signer now lasts limit command).run state =
      ({ lasts, outcome := stops (command.name :: command.arguments) dispatched.1 },
        dispatched.2) := by
  have parsed : parseArguments
      (plugin :: (Invocation.command plugin stdin init args).arguments) = .ok ⟨init, args⟩ :=
    parseArguments_command plugin version whole
  unfold inProcess
  simp only [Invocation.command] at parsed ⊢
  rw [parsed]
  rfl

end Plugin

namespace Client

variable [PemKey κ] {signer : Signer σ κ} {client : Client} {now served : Instant} {lasts : Nat}

/-- What a caller finds in a reply that shows an answer to the call is that answer. -/
private theorem read_reply (client : Client) {call : Call} {answer : Answer κ} {reply : PluginResp}
    (fits : answer.Fits call.method) (shows : answer.reply call.method = .ok reply)
    (reloads : ∀ key, answer = .key key → ∃ pem, PemKey.toPem key = .ok pem ∧
    PemKey.ofPem pem = .ok key) :
    client.read call reply = .ok answer := by
  have loads (key : κ) (found : answer = .key key) :
      ∃ shown, Plugin.written key = .ok shown ∧ (keyOf shown : Except ClientError κ) = .ok key := by
    obtain ⟨pem, text, loaded⟩ := reloads key found
    refine ⟨⟨pem⟩, by rw [Plugin.written, text]; rfl, ?_⟩
    simp only [keyOf, loaded]
    rfl
  cases answer with
  | algorithm name =>
    cases call with
    | defaultAlgorithm =>
      cases shows
      rfl
    | _ => cases fits
  | algorithms names =>
    cases call with
    | supportedAlgorithms =>
      cases shows
      rfl
    | _ => cases fits
  | key made =>
    obtain ⟨shown, pem, found⟩ := loads made rfl
    rw [Answer.reply, pem] at shows
    cases call with
    | createKey ctx algorithm =>
      cases shows
      simp only [read, part, bind, Except.bind, Call.method, if_true, found]
      rfl
    | publicKey options =>
      cases shows
      simp only [read, part, bind, Except.bind, Call.method, reduceCtorEq, if_false, found]
      rfl
    | _ => rcases fits with same | same <;> cases same
  | signature bytes =>
    cases call with
    | signMessage message options =>
      cases shows
      rfl
    | _ => cases fits
  | verified =>
    cases call with
    | verifySignature signature message options => rfl
    | _ => cases fits

/-- A call through a process that serves a signer comes to what is found in the document that
is written. -/
theorem ask_inProcess {call : Call} {args : MethodArgs} {state : σ}
    (version : client.init.protocolVersion = protocolVersion) (whole : args.InMinutes)
    (live : call.context.err? (now + lasts) = none) (requests : call.request = .ok args) :
    let dispatched := (Plugin.dispatch signer served call.message args).run state
    (client.ask (κ := κ) (Plugin.inProcess signer served lasts) now call).run state =
      (match Plugin.found client.plugin args.method dispatched.1 with
        | .ok reply => client.read call reply
        | .error error => .error (.invocation error), dispatched.2) := by
  intro dispatched
  have launched (limit : Option Nat) :=
    Plugin.inProcess_outcome signer served client.plugin call.message version whole
      limit lasts state
  have invoked :=
    Invocation.invoke_ended live (PluginArgs.written_string ⟨client.init, args⟩) launched
  rw [Plugin.verdict_stops] at invoked
  rw [ask_request]
  simp only [requests, StateT.run_bind, invoked]
  rfl

/-- What a caller makes of what is found of an answer that was to be written: the answer or its
failure in strings, or an empty reply. -/
private theorem read_found (client : Client) {call : Call}
    {answered : Except Fault (Answer κ CodeText)}
    (filled : ∀ fault, answered = .error fault → fault.message ≠ [])
    (fits : ∀ answer, answered = .ok answer → answer.Fits call.method)
    (keys : ∀ key, answered = .ok (.key key) →
      ∃ pem, PemKey.toPem key = .ok pem ∧ PemKey.ofPem pem = .ok key) :
    let shown := answered.bind (·.reply call.method)
    (match Plugin.found client.plugin call.method
        ((Plugin.telling shown).written.map PluginResp.form.encode) with
      | .ok reply => client.read call reply
      | .error error => .error (.invocation error)) =
      match answered with
      | .ok answer => match answer.written with
        | .ok answer => .ok answer
        | .error _ => .error (.invocation (.emptyReply client.plugin))
      | .error fault =>
        match Writable.written (if fault.text = [] then ↑fault.label else fault.text) with
        | .ok message => .error (.invocation (.returned message))
        | .error _ => .error (.invocation (.emptyReply client.plugin)) := by
  intro shown
  cases answered with
  | error fault =>
    have reported : (if fault.text = [] then ↑fault.label else fault.text) = fault.message := rfl
    have left := Plugin.found_failure client.plugin call.method (filled fault rfl)
    simp only [shown, reported, Except.bind, left]
    cases Writable.written fault.message <;> rfl
  | ok answer =>
    cases shows : answer.reply call.method with
    | error fault =>
      obtain ⟨key, rfl, unshown⟩ := Answer.reply_eq_error.mp shows
      obtain ⟨pem, text, -⟩ := keys key rfl
      rw [unshown] at text
      cases text
    | ok reply =>
      have left := Plugin.found_answer client.plugin (fits answer rfl) shows
      simp only [shown, Except.bind, shows]
      cases writes : answer.written with
      | error unwritten =>
        rw [writes] at left
        simp only [left]
      | ok known =>
        rw [writes] at left
        obtain ⟨document, shown, seen⟩ := left
        have reloads (key : κ) (same : known = .key key) :
            ∃ pem, PemKey.toPem key = .ok pem ∧ PemKey.ofPem pem = .ok key :=
          keys key (congrArg _ (Answer.key_of_written (same ▸ writes)))
        simp only [seen]
        exact client.read_reply (Answer.fits_written (fits answer rfl) writes) shown reloads

/-- Calling a client whose process serves a signer is calling the signer. The call reaches it
exactly once, as it was made up to options that make the same bag; what it answers is
returned, and how it fails is the error that the plugin returned. If a text of that cannot be
written, the process is stopped before it writes anything, and the caller is told of an empty
reply. -/
theorem transparency (signer : Signer σ κ) (client : Client) (call : Call) (now : Instant)
    (delay lasts : Nat) (log : List Call) (state : σ)
    (version : client.init.protocolVersion = protocolVersion) (accepted : call.Accepted)
    (whole : ∀ d ∈ call.context.deadline, d.timestamp.InMinutes)
    (live : call.context.err? (now + lasts) = none) (during : delay ≤ lasts)
    (named : signer.NamesFaults) (keys : signer.KeysReload) :
    ∃ received : Call, received.Same call ∧
      let answered := (signer.answer received).outcome state
      (client.ask (Plugin.inProcess signer.recorded (now + delay) lasts) now call).run
        (log, state) =
        (match answered.1 with
          | .ok answer => match answer.written with
            | .ok answer => .ok answer
            | .error _ => .error (.invocation (.emptyReply client.plugin))
          | .error fault =>
            match Writable.written (if fault.text = [] then ↑fault.label else fault.text) with
            | .ok message => .error (.invocation (.returned message))
            | .error _ => .error (.invocation (.emptyReply client.plugin)),
          log ++ [received], answered.2) := by
  have serving : call.context.err? (now + delay) = none :=
    CallContext.err?_earlier (Int.add_le_add_left (Int.ofNat_le.mpr during) now) live
  obtain ⟨_, args, -, -, requests⟩ := Call.request_of_accepted accepted
  obtain ⟨received, asks, same, context⟩ :=
    Call.exists_received requests (CallContext.err?_eq_none.mp live).1
  refine ⟨received, same, ?_⟩
  intro answered
  have minutes : args.InMinutes :=
    MethodArgs.inMinutes_of_deadline (Call.deadline_inMinutes requests whole)
  have answers : Plugin.answer signer.recorded (now + delay) call.message args =
      signer.recorded.answer received :=
    Plugin.answer_of_live asks (context ▸ serving)
  have method : args.method = call.method := Call.method_of_request requests
  have asked : (client.ask (Plugin.inProcess signer.recorded (now + delay) lasts) now call).run
      (log, state) = _ :=
    ask_inProcess version minutes live requests
  rw [Plugin.dispatch_outcome, Plugin.perform_outcome, answers, signer.recorded_outcome,
    method] at asked
  rw [asked]
  refine congrArg (·, log ++ [received], answered.2) (client.read_found ?_ ?_ ?_)
  · intro fault failed
    exact Fault.message_ne_nil (named.answers received state fault failed)
  · intro answer answers
    rw [← method, ← MethodArgs.method_call asks]
    exact signer.answer_fits answers
  · exact keys received state

theorem transparency_verifySignature :
    let signer : Signer Nat :=
      { defaultAlgorithm := pure "ED25519"
        supportedAlgorithms := pure ["ED25519"]
        createKey := fun _ _ => Action.fail ⟨"NotImplementedError", []⟩
        publicKey := fun _ => pure (.ed25519 (List.replicate 32 7))
        signMessage := fun message _ => pure message
        verifySignature := fun _ _ _ =>
          ExceptT.mk fun state => (.error ⟨"InvalidSignature", []⟩, state + 1) }
    let client : Client := { plugin := "plugin", init := {} }
    let deadline : Time.Deadline :=
      { timestamp := ⟨2024, 2, 29, 12, 30, 0, 0,
        some ⟨90 * Time.minute, by decide⟩, by decide⟩, aware := rfl }
    let options := [.keyVersion "1", .context { deadline := some deadline }, .keyVersion "2"]
    ∃ received : List SignerOption, Options.packVerify received = Options.packVerify options ∧
      (client.ask (κ := PublicKey) (Plugin.inProcess signer.recorded 1 2) 0
        (.verifySignature [1] [2] options)).run ([], 0) =
        (.error (.invocation (.returned "InvalidSignature")),
          [.verifySignature [1] [2] received], 1) := by
  intro signer client deadline options
  have named : signer.NamesFaults := by
    refine ⟨fun call state fault failed => ?_, fun _ _ failed => nomatch failed⟩
    cases call <;> cases failed <;> decide
  have keys : signer.KeysReload := by
    intro call state key answered
    cases call <;> cases answered
    exact ⟨_, rfl, rfl⟩
  have whole : ∀ d ∈ (OptionValues.ofOptions options).ctx.deadline, d.timestamp.InMinutes := by
    rintro d ⟨⟩
    decide
  obtain ⟨received, same, run⟩ :=
    transparency signer client (.verifySignature [1] [2] options) 0 1 2 [] 0 rfl
    trivial whole (by decide) (by decide) named keys
  cases same with
  | verifySignature _ _ repacked => exact ⟨_, repacked, run⟩

/-- A failure whose text holds a surrogate does not come back: the caller is told of an empty
reply. -/
theorem transparency_unwritten :
    let fault : Fault := ⟨"ValueError", [.surrogate 0]⟩
    let signer : Signer Unit :=
      { defaultAlgorithm := Action.fail fault
        supportedAlgorithms := Action.fail fault
        createKey := fun _ _ => Action.fail fault
        publicKey := fun _ => Action.fail fault
        signMessage := fun _ _ => Action.fail fault
        verifySignature := fun _ _ _ => Action.fail fault }
    let client : Client := { plugin := "plugin", init := {} }
    ((signer.answer .defaultAlgorithm).outcome ()).1 = .error fault ∧
      (client.ask (κ := PublicKey) (Plugin.inProcess signer.recorded 0 0) 0
        .defaultAlgorithm).run ([], ()) =
        (.error (.invocation (.emptyReply "plugin")), [.defaultAlgorithm], ()) := by
  intro fault signer client
  have minutes : (MethodArgs.defaultAlgorithm {}).InMinutes :=
    MethodArgs.inMinutes_defaultAlgorithm {}
  have asked : (client.ask (κ := PublicKey) (Plugin.inProcess signer.recorded 0 0) 0
      .defaultAlgorithm).run ([], ()) = _ :=
    ask_inProcess rfl minutes rfl rfl
  exact ⟨rfl, asked⟩

end Client
end SignerPlugin
