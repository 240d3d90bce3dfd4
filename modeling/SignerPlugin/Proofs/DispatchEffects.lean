import SignerPlugin.Proofs.DeadlineCarriage
import SignerPlugin.Proofs.DispatchReply

/-! What a request does to the backend of a plugin. One whose deadline names no instant, or
has passed, does nothing to it; every other one makes one call, and that call is the one that
would be packed as the request. -/

namespace SignerPlugin

open Message

theorem CallContext.ofTimestamp_naive {t : Time.Timestamp} (naive : t.offset = none) :
    ofTimestamp (some t) = .error ⟨t⟩ := by
  simp [ofTimestamp, Time.Deadline.ofTimestamp?, naive]

namespace Options

variable {deadline : Option Time.Deadline} {t : Time.Timestamp}

theorem unpackRpc_naive {bag : RpcOptions} (known : bag.ctxDeadline = some t)
    (naive : t.offset = none) :
    unpackRpc bag = .error ⟨t⟩ := by
  have context := CallContext.ofTimestamp_naive naive
  unfold unpackRpc
  rw [known]
  simp [context, bind, Except.bind, Except.map]

theorem unpackSign_naive {bag : SignOptions} (known : bag.ctxDeadline = some t)
    (naive : t.offset = none) :
    unpackSign bag = .error ⟨t⟩ := by
  rw [unpackSign, unpackRpc_naive known naive]
  rfl

theorem callValues_rpc {bag : RpcOptions} (same : bag.ctxDeadline = deadline.map (·.timestamp)) :
    (callValues bag deadline).rpc = bag := by
  obtain ⟨ctxDeadline, version, remote⟩ := bag
  obtain rfl : ctxDeadline = deadline.map (·.timestamp) := same
  cases deadline <;> rfl

/-- What is unpacked of a bag makes the bag again when it is packed. -/
theorem packPublicKey_callValues {bag : PublicKeyOptions}
    (same : bag.ctxDeadline = deadline.map (·.timestamp)) :
    packPublicKey (callValues bag deadline).listed = .ok bag := by
  have packed := packRpc_callOnly (callValues bag deadline)
  rw [callValues_rpc same] at packed
  exact packed

theorem packSign_messageValues {bag : SignOptions}
    (same : bag.ctxDeadline = deadline.map (·.timestamp)) :
    packSign (messageValues bag deadline).listed = bag := by
  have rpc : (messageValues bag deadline).rpc = bag.toRpcOptions := callValues_rpc same
  rw [packSign_listed, rpc]
  rfl

end Options

namespace Message.MethodArgs

variable {args : MethodArgs} {deadline : Option Time.Deadline} {stdin : Bytes} {t : Time.Timestamp}

/-- The message on the input, for the methods that have one. -/
def message (stdin : Bytes) : MethodArgs → Bytes
  | .signMessage _ => stdin
  | .verifySignature _ => stdin
  | _ => []

/-- The call that a request asks for is the one that would be packed as the request, about the
message on the input. -/
theorem request_call (same : args.deadline? = deadline.map (·.timestamp)) {call : Call}
    (asks : args.call stdin = .ok call) :
    call.request = .ok args ∧ call.message = args.message stdin := by
  cases args with
  | defaultAlgorithm args =>
    cases asks
    exact ⟨rfl, rfl⟩
  | supportedAlgorithms args =>
    cases asks
    exact ⟨rfl, rfl⟩
  | createKey args =>
    have fresh : CallContext.ofTimestamp args.ctxDeadline = .ok { deadline } :=
      (congrArg _ same).trans (CallContext.ofTimestamp_deadline deadline)
    have told : deadline.map (·.timestamp) = args.ctxDeadline := same.symm
    rw [MethodArgs.call, fresh] at asks
    cases asks
    refine ⟨?_, rfl⟩
    rw [Call.request, told]
  | publicKey args =>
    rw [MethodArgs.call, Options.unpackPublicKey, Options.unpackRpc_aware same] at asks
    cases asks
    refine ⟨?_, rfl⟩
    rw [Call.request, Options.packPublicKey_callValues same]
    rfl
  | signMessage args =>
    rw [MethodArgs.call, Options.unpackSign_aware same] at asks
    cases asks
    refine ⟨?_, rfl⟩
    rw [Call.request, Options.packSign_messageValues same]
  | verifySignature args =>
    rw [MethodArgs.call, Options.unpackVerify, Options.unpackSign_aware same] at asks
    cases asks
    refine ⟨?_, rfl⟩
    rw [Call.request, Options.packVerify, Options.packSign_messageValues same]

end Message.MethodArgs

namespace CallContext

variable {deadline : Time.Deadline} {now : Instant}

end CallContext

namespace Plugin

variable {σ α κ : Type}

/-- A use of a backend: a call of one of its methods, or the making of a plain signer. -/
inductive Use
  | call (call : Call)
  | cryptoSigner (ctx : CallContext)
  deriving DecidableEq, Repr

namespace Backend

/-- An action before which a use is put on record. -/
def noting (use : Use) (action : Action (Streams × σ) α) : Action (Streams × List Use × σ) α :=
  ExceptT.mk fun (streams, log, state) =>
    let (answer, streams, state) := action.outcome (streams, state)
    (answer, streams, log ++ [use], state)

/-- The backend that also keeps a record of the uses that are made of it. -/
def recorded (backend : Backend σ κ) : Backend (List Use × σ) κ where
  defaultAlgorithm := noting (.call .defaultAlgorithm) backend.defaultAlgorithm
  supportedAlgorithms := noting (.call .supportedAlgorithms) backend.supportedAlgorithms
  createKey ctx algorithm :=
    noting (.call (.createKey ctx algorithm)) (backend.createKey ctx algorithm)
  publicKey options := noting (.call (.publicKey options)) (backend.publicKey options)
  signMessage message options :=
    noting (.call (.signMessage message options)) (backend.signMessage message options)
  verifySignature signature message options :=
    noting (.call (.verifySignature signature message options))
      (backend.verifySignature signature message options)
  cryptoSigner ctx := noting (.cryptoSigner ctx) (backend.cryptoSigner ctx)

theorem recorded_outcome (backend : Backend σ κ) (call : Call) (streams : Streams)
    (log : List Use) (state : σ) :
    (backend.recorded.answer call).outcome (streams, log, state) =
      let (answer, streams, state) := (backend.answer call).outcome (streams, state)
      (answer, streams, log ++ [.call call], state) := by
  cases call <;> simp only [Signer.answer, Action.outcome_map] <;> rfl

end Backend

variable [PemKey κ]

end Plugin
end SignerPlugin
