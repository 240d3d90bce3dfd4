import SignerPlugin.Proofs.RequestedCall

/-! The way of a deadline to the other side: it is packed with the request, written in the
arguments of a process, read there, and made into a context again. -/

namespace SignerPlugin

open Message

variable {θ : Type}

namespace Message.MethodArgs

/-- The deadline that a request has, whichever its method. -/
def deadline? : MethodArgs θ → Option Time.Timestamp
  | .createKey args => args.ctxDeadline
  | .publicKey args => args.publicKeyOptions.ctxDeadline
  | .signMessage args => args.signOptions.ctxDeadline
  | .verifySignature args => args.verifyOptions.ctxDeadline
  | _ => none

/-- The request that is received has the deadline that its text says, and is refused if that
says none. -/
theorem received?_deadline (args : MethodArgs) :
    args.received?.map deadline? = args.deadline?.mapM Time.Timestamp.received? := by
  have bag (options : RpcOptions) :
      options.received?.map (·.ctxDeadline) =
        options.ctxDeadline.mapM Time.Timestamp.received? := by
    rw [RpcOptions.received?]
    cases options.ctxDeadline.mapM Time.Timestamp.received? <;> rfl
  cases args with
  | defaultAlgorithm args => rfl
  | supportedAlgorithms args => rfl
  | createKey args =>
    simp only [received?, deadline?, CreateKeyArgs.received?]
    cases args.ctxDeadline.mapM Time.Timestamp.received? <;> rfl
  | publicKey args =>
    simp only [deadline?, ← bag, received?, PublicKeyArgs.received?]
    cases args.publicKeyOptions.received? <;> rfl
  | signMessage args =>
    simp only [deadline?, ← bag, received?, SignMessageArgs.received?, SignOptions.received?]
    cases args.signOptions.toRpcOptions.received? <;> rfl
  | verifySignature args =>
    simp only [deadline?, ← bag, received?, VerifySignatureArgs.received?, SignOptions.received?]
    cases args.verifyOptions.toRpcOptions.received? <;> rfl

end Message.MethodArgs

theorem Call.request_deadline {call : Call θ} {args : MethodArgs θ}
    (requests : call.request = .ok args) :
    args.deadline? = call.context.deadline.map (·.timestamp) := by
  cases call with
  -- Only these options can be refused.
  | publicKey options =>
    obtain ⟨bag, packed, rfl⟩ := Call.request_publicKey requests
    obtain ⟨-, rfl⟩ := Options.packRpc_eq_ok.mp packed
    exact OptionValues.rpc_ctxDeadline _
  | signMessage message options =>
    cases requests
    exact OptionValues.rpc_ctxDeadline _
  | verifySignature signature message options =>
    cases requests
    exact OptionValues.rpc_ctxDeadline _
  | _ =>
    cases requests
    rfl

private theorem OptionValues.context_mem_listed {values : OptionValues} {ctx : CallContext} :
    .context ctx ∈ values.listed ↔ values.context = some ctx := by
  have listed : SignerOption.Field.context.option ctx ∈ values.listed ↔
      values.get .context = some ctx :=
    values.listed_listedBy.mem_iff
  exact listed

namespace Options

variable {deadline : Option Time.Deadline}

/-- The values of a bag for a call, with a context for its deadline. -/
def callValues (bag : RpcOptions) (deadline : Option Time.Deadline) : OptionValues where
  context := deadline.map fun d => { deadline := some d }
  keyVersion := bag.keyVersion
  remoteVerification := bag.remoteVerification

/-- The values of a bag for a call with a message, with a context for its deadline. -/
def messageValues (bag : SignOptions) (deadline : Option Time.Deadline) : OptionValues :=
  { callValues bag.toRpcOptions deadline with digest := bag.digest, hashFunc := bag.hashFunc }

theorem unpackRpc_aware {bag : RpcOptions} (same : bag.ctxDeadline = deadline.map (·.timestamp)) :
    unpackRpc bag = .ok (callValues bag deadline).listed := by
  have context := CallContext.ofTimestamp_deadline deadline
  unfold unpackRpc
  rw [same]
  cases deadline with
  | none => simp [callValues, OptionValues.listed, bind, Except.bind, pure, Except.pure]
  | some d =>
    simp only [Option.map_some] at context ⊢
    simp [context, callValues, OptionValues.listed, bind, Except.bind, pure,
      Except.pure, Except.map]

theorem unpackSign_aware {bag : SignOptions} (same : bag.ctxDeadline = deadline.map (·.timestamp)) :
    unpackSign bag = .ok (messageValues bag deadline).listed := by
  rw [unpackSign, unpackRpc_aware same]
  simp [OptionValues.listed, unpackMessage, messageValues, callValues, bind, Except.bind, pure,
    Except.pure]

end Options

/-- A call whose context was made of a deadline, or of none. -/
structure Call.RunsUnder (call : Call) (deadline : Option Time.Deadline) : Prop where
  context : call.context = { deadline }
  alone : deadline = none → ∀ ctx, .context ctx ∉ call.options

theorem Call.RunsUnder.of_listed {call : Call} {deadline : Option Time.Deadline}
    {values : OptionValues} (options : call.options = values.listed)
    (ctx : call.context = (OptionValues.ofOptions values.listed).ctx)
    (sets : values.context = deadline.map fun d => { deadline := some d }) :
    call.RunsUnder deadline where
  context := by
    rw [ctx, OptionValues.ofOptions_listed, OptionValues.ctx, sets]
    cases deadline <;> rfl
  alone := by
    rintro rfl ctx member
    rw [options, OptionValues.context_mem_listed, sets] at member
    cases member

namespace Message.MethodArgs

variable {args : MethodArgs} {deadline : Option Time.Deadline}

/-- The call that a request asks for runs under a context with the deadline of the request. -/
theorem call_aware (same : args.deadline? = deadline.map (·.timestamp)) (stdin : Bytes) :
    ∃ call, args.call stdin = .ok call ∧ call.RunsUnder deadline := by
  have without {call : Call} (none : .none = deadline.map (·.timestamp))
      (context : call.context = .background)
      (options : call.options = []) : call.RunsUnder deadline := by
    obtain rfl := Option.map_eq_none_iff.mp none.symm
    exact ⟨context, by simp [options]⟩
  cases args with
  | defaultAlgorithm args => exact ⟨.defaultAlgorithm, rfl, without same rfl rfl⟩
  | supportedAlgorithms args => exact ⟨.supportedAlgorithms, rfl, without same rfl rfl⟩
  | createKey args =>
    have fresh : CallContext.ofTimestamp args.ctxDeadline = .ok { deadline } :=
      (congrArg _ same).trans (CallContext.ofTimestamp_deadline deadline)
    refine ⟨.createKey { deadline } args.algorithm, ?_, rfl, by simp [Call.options]⟩
    rw [call, fresh]
    rfl
  | publicKey args =>
    refine ⟨.publicKey (Options.callValues args.publicKeyOptions deadline).listed, ?_,
      .of_listed rfl rfl rfl⟩
    rw [call, Options.unpackPublicKey, Options.unpackRpc_aware same]
    rfl
  | signMessage args =>
    refine ⟨.signMessage stdin (Options.messageValues args.signOptions deadline).listed, ?_,
      .of_listed rfl rfl rfl⟩
    rw [call, Options.unpackSign_aware same]
    rfl
  | verifySignature args =>
    refine ⟨.verifySignature args.signature stdin
      (Options.messageValues args.verifyOptions deadline).listed, ?_, .of_listed rfl rfl rfl⟩
    rw [call, Options.unpackVerify, Options.unpackSign_aware same]
    rfl

end Message.MethodArgs

namespace Plugin

/-- The call that the process of a command is asked for, if there is one. -/
def asked? (command : Command) : Option Call :=
  (parseArguments (command.name :: command.arguments)).toOption.bind fun args =>
    (args.methodArgs.call command.stdin).toOption

variable (plugin : String) (stdin : Bytes) (init : InitOptions) {args : MethodArgs}

/-- What is parsed of the arguments of a command is the request that was received. -/
theorem parseArguments_received (version : init.protocolVersion = protocolVersion) :
    (parseArguments (plugin :: (Invocation.command plugin stdin init args).arguments)).toOption =
      args.received?.map (PluginArgs.mk init) := by
  have read : (PluginArgs.form.decode
      (Bytes.ofText (PluginArgs.form.encode ⟨init, args⟩))).toOption =
      args.received?.map (PluginArgs.mk init) :=
    Schema.Form.toOption_decode_encode PluginArgs.codec_legible
      (PluginArgs.codec_sends ⟨init, args⟩)
  simp only [Invocation.command, parseArguments, version, ne_eq, not_true, if_false]
  cases decoded : PluginArgs.form.decode (Bytes.ofText (PluginArgs.form.encode ⟨init, args⟩)) with
  | error report =>
    rw [decoded] at read
    exact read
  | ok found =>
    rw [decoded] at read
    obtain ⟨received, _, rfl⟩ := Option.map_eq_some_iff.mp read.symm
    simp only [version, not_true, if_false]
    exact read

/-- The call that is asked for runs under a context with the deadline that the text of the
deadline says. -/
theorem asked?_runsUnder {call : Call} (version : init.protocolVersion = protocolVersion)
    (requests : call.request = .ok args) :
    match call.context.deadline.mapM Time.Deadline.received? with
    | none => asked? (Invocation.command plugin stdin init args) = none
    | some deadline =>
      ∃ received, asked? (Invocation.command plugin stdin init args) = some received ∧
        received.RunsUnder deadline := by
  have told : args.received?.map MethodArgs.deadline? =
      (call.context.deadline.mapM Time.Deadline.received?).map (Option.map (·.timestamp)) := by
    rw [MethodArgs.received?_deadline, Call.request_deadline requests]
    cases call.context.deadline with
    | none => rfl
    | some d =>
      simp only [Option.map_some, Option.mapM_some, Time.Deadline.received?_timestamp]
      cases d.received? <;> rfl
  have asks : asked? (Invocation.command plugin stdin init args) =
      args.received?.bind fun received => (received.call stdin).toOption := by
    have parsed : _ = args.received?.map (PluginArgs.mk init) :=
      parseArguments_received plugin stdin init version
    unfold asked?
    simp only [Invocation.command] at parsed ⊢
    rw [parsed, Option.bind_map]
    rfl
  rw [asks]
  -- The request is received exactly when its deadline is, and then with that deadline.
  cases received : args.received? with
  | none =>
    rw [received] at told
    rw [Option.map_eq_none_iff.mp told.symm]
    rfl
  | some got =>
    rw [received] at told
    obtain ⟨deadline, known, same⟩ := Option.map_eq_some_iff.mp told.symm
    obtain ⟨asked, calls, runs⟩ := MethodArgs.call_aware same.symm stdin
    rw [known]
    exact ⟨asked, by rw [Option.bind_some, calls]; rfl, runs⟩

/-- What becomes of the deadline of a call. Without one, the other side makes no context of
its own. With one, the request is understood unless its offset is within half a second of a
day, and the context that is made has the deadline up to less than a minute; it names the same
instant exactly if its offset is of whole minutes. -/
theorem deadline_carried (plugin : String) (stdin : Bytes) (init : InitOptions)
    (version : init.protocolVersion = protocolVersion) (call : Call) (args : MethodArgs)
    (requests : call.request = .ok args) :
    let asked := asked? (Invocation.command plugin stdin init args)
    (call.context.deadline = none → ∃ received, asked = some received ∧
      received.context = .background ∧ ∀ ctx, .context ctx ∉ received.options) ∧
    ∀ d, call.context.deadline = some d →
      (asked.isSome ↔ (d.timestamp.offset.get d.aware).seconds.natAbs < 86400) ∧
      ∀ received, asked = some received → ∃ carried : Time.Deadline,
        received.context = { deadline := some carried } ∧
          (carried.instant - d.instant).natAbs < Time.minute ∧
          (carried.instant = d.instant ↔ d.timestamp.InMinutes) := by
  intro asked
  have runs := asked?_runsUnder plugin stdin init version requests
  refine ⟨?_, ?_⟩
  · intro none
    rw [none] at runs
    obtain ⟨received, same, under⟩ := runs
    exact ⟨received, same, under.context, under.alone rfl⟩
  · intro d known
    have sent : (some d).mapM Time.Deadline.received? = d.received?.map some := rfl
    rw [known, sent] at runs
    rw [← Time.Deadline.received?_isSome]
    cases told : d.received? with
    | none =>
      rw [told] at runs
      have refused : asked = none := runs
      simp [refused]
    | some carried =>
      rw [told] at runs
      obtain ⟨received, same, under⟩ := runs
      have understood : asked = some received := same
      obtain ⟨near, kept⟩ := Time.Deadline.received?_near told
      refine ⟨by simp [understood], fun other asks => ⟨carried, ?_, near, kept⟩⟩
      obtain rfl := Option.some.inj (understood.symm.trans asks)
      exact under.context

theorem deadline_carried_publicKey :
    let deadline : Time.Deadline :=
      { timestamp := ⟨2024, 2, 29, 12, 30, 0, 250000,
        some ⟨-90 * Time.minute, by decide⟩, by decide⟩, aware := rfl }
    let options := [.keyVersion "1", .context { deadline := some deadline }]
    let command :=
      Invocation.command "plugin" [] {} (.publicKey ⟨(OptionValues.ofOptions options).rpc⟩)
    ∃ received, asked? command = some received ∧ ∃ carried : Time.Deadline,
      received.context = { deadline := some carried } ∧ carried.instant = deadline.instant := by
  intro deadline options command
  obtain ⟨_, carried⟩ := deadline_carried "plugin" [] {} rfl (.publicKey options)
    (.publicKey ⟨(OptionValues.ofOptions options).rpc⟩) rfl
  obtain ⟨understood, same⟩ := carried deadline rfl
  obtain ⟨received, asks⟩ := Option.isSome_iff_exists.mp (understood.mpr (by decide))
  obtain ⟨carried, context, _, kept⟩ := same received asks
  exact ⟨received, asks, carried, context, kept.mpr (by decide)⟩

/-- A deadline whose offset has a part of a minute is shifted by that part. -/
theorem asked?_shifted :
    let deadline : Time.Deadline :=
      { timestamp := ⟨2930, 1, 2, 3, 4, 5, 0,
        some ⟨30 * Time.second, by decide⟩, by decide⟩, aware := rfl }
    let call := Call.createKey { deadline := some deadline } "alg1"
    let command := Invocation.command "plugin" [] {} (.createKey
      { ctxDeadline := some deadline.timestamp, algorithm := "alg1" })
    call.request = .ok (.createKey
      { ctxDeadline := some deadline.timestamp, algorithm := "alg1" }) ∧
      ∃ received carried, asked? command = some received ∧
        received.context.deadline = some carried ∧
        carried.instant = deadline.instant + 30 * Time.second := by
  intro deadline call command
  have requests : call.request = .ok (.createKey
      { ctxDeadline := some deadline.timestamp, algorithm := "alg1" }) := rfl
  have told : call.context.deadline.mapM Time.Deadline.received? =
      some (some ⟨{ deadline.timestamp with offset := some .utc }, rfl⟩) := by decide
  have runs := asked?_runsUnder "plugin" [] {} rfl requests
  rw [told] at runs
  obtain ⟨received, same, under⟩ := runs
  exact ⟨requests, received, _, same, congrArg CallContext.deadline under.context, by decide⟩

end Plugin
end SignerPlugin
