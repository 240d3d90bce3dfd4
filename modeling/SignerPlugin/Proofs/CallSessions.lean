import Mathlib.Data.List.Forall2
import SignerPlugin.CryptoSigner
import SignerPlugin.Proofs.DeadlineCarriage

/-! Sessions of a client: any number of calls, one after the other, whatever becomes of them.
Each call has at most one process, and what that is given says the call in full. -/

namespace SignerPlugin

open Message Command
open Text (CodeText Writable)

namespace Message.MethodArgs

/-- A request is written in full if its deadline is. -/
theorem inMinutes_of_deadline {args : MethodArgs} (whole : ∀ t ∈ args.deadline?, t.InMinutes) :
    args.InMinutes := by
  cases args with
  | defaultAlgorithm args => exact inMinutes_defaultAlgorithm args
  | supportedAlgorithms args => exact inMinutes_supportedAlgorithms args
  | createKey args => exact inMinutes_createKey whole
  | publicKey args => exact inMinutes_publicKey whole
  | signMessage args => exact inMinutes_signMessage whole
  | verifySignature args => exact inMinutes_verifySignature whole

/-- The deadline of a request is no text. -/
private theorem deadline?_mapTexts {θ θ' : Type} {f : θ → Id θ'} (args : MethodArgs θ) :
    deadline? (args.mapTexts (m := Id) f) = args.deadline? := by
  cases args <;> rfl

end Message.MethodArgs

/-- The deadline of a request is written in full if that of its call's context is. -/
theorem Call.deadline_inMinutes {θ : Type} {call : Call θ} {args : MethodArgs θ}
    (requests : call.request = .ok args)
    (whole : ∀ d ∈ call.context.deadline, d.timestamp.InMinutes) :
    ∀ t ∈ args.deadline?, t.InMinutes := by
  rw [Call.request_deadline requests]
  intro t known
  obtain ⟨d, set, rfl⟩ := Option.map_eq_some_iff.mp known
  exact whole d set

namespace Plugin

/-- Another version of the protocol is noticed before anything else. -/
private theorem parseArguments_otherVersion {init : InitOptions} (plugin : String) (stdin : Bytes)
    (args : MethodArgs) (other : init.protocolVersion ≠ protocolVersion) :
    parseArguments (plugin :: (Invocation.command plugin stdin init args).arguments) =
      .error (.version init.protocolVersion) := by
  simp only [Invocation.command, parseArguments, ne_eq, other, not_false_eq_true, if_true]

end Plugin

namespace Client

variable {τ κ θ : Type}

/-- What a caller can do with a client. Messages and signatures are read where they come from, and
contexts are given as they stand at the call. -/
inductive Request (θ : Type := String)
  | defaultAlgorithm
  | supportedAlgorithms
  | createKey (ctx : CallContext) (algorithm : θ)
  | publicKey (options : List (SignerOption θ))
  | signMessage (message : MessageSource) (options : List (SignerOption θ))
  | verifySignature (signature message : MessageSource) (options : List (SignerOption θ))
  | cryptoSigner (ctx : CallContext)

/-- What comes of it. -/
inductive Reaction (κ : Type := PublicKey) (θ : Type := String)
  | answered (result : Except (ClientError θ) (Answer κ))
  | wrapped (result : Except ContextError CryptoSigner)

namespace Request

/-- The call that is made, with what is read for it. A plain signer is made without one. -/
def call? : Request θ → StateM Streams (Option (Call θ))
  | .defaultAlgorithm => return some .defaultAlgorithm
  | .supportedAlgorithms => return some .supportedAlgorithms
  | .createKey ctx algorithm => return some (.createKey ctx algorithm)
  | .publicKey options => return some (.publicKey options)
  | .signMessage message options => do
    return some (.signMessage (← message.read) options)
  | .verifySignature signature message options => do
    let signature ← signature.read
    return some (.verifySignature signature (← message.read) options)
  | .cryptoSigner _ => return none

end Request

/-- The calls of a session. -/
def calls (turns : List (Instant × Request θ)) :
    StateM Streams (List (Instant × Option (Call θ))) :=
  turns.mapM fun (now, request) => do return (now, ← request.call?)

section Acts

variable [PemKey κ] [Writable θ]

/-- Does what a caller wants, at an instant. -/
def act (client : Client θ) (launch : Launch τ) (now : Instant) :
    Request θ → StateM (Streams × τ) (Reaction κ θ)
  | .defaultAlgorithm => besideStreams do
    return .answered ((← client.defaultAlgorithm launch now).result.map .algorithm)
  | .supportedAlgorithms => besideStreams do
    return .answered ((← client.supportedAlgorithms launch now).result.map .algorithms)
  | .createKey ctx algorithm => besideStreams do
    return .answered ((← client.createKey launch now ctx algorithm).result.map .key)
  | .publicKey options => besideStreams do
    return .answered ((← client.publicKey launch now options).result.map .key)
  | .signMessage message options => do
    return .answered ((← client.signMessageFrom launch now message options).result.map .signature)
  | .verifySignature signature message options => do
    let outcome ← client.verifySignatureFrom launch now signature message options
    return .answered (outcome.result.map fun _ => .verified)
  | .cryptoSigner ctx => return .wrapped (CryptoSigner.make ctx now client.init.hashFunc)

/-- Does what callers want, one after the other. -/
def session (client : Client θ) (launch : Launch τ) (turns : List (Instant × Request θ)) :
    StateM (Streams × τ) (List (Reaction κ θ)) :=
  turns.mapM fun (now, request) => client.act launch now request

/-- What a caller wants changes the world as its call does, after the messages have been read. -/
theorem act_world (client : Client θ) (launch : Launch τ) (now : Instant) (request : Request θ)
    (streams : Streams) (world : τ) :
    ((client.act (κ := κ) launch now request).run (streams, world)).2 =
      ((request.call?.run streams).2, match (request.call?.run streams).1 with
        | some call => ((client.ask (κ := κ) launch now call).run world).2
        | none => world) := by
  cases request <;> rfl

end Acts

/-- What the process of a call is given: the program of the client, the message as input, and two
arguments, of which the plugin reads the binding of the client and the request that the arguments of
the call make. A plugin that speaks another version of the protocol finds only that. -/
structure Carries [Writable θ] (client : Client θ) (call : Call θ) (command : Command) : Prop where
  name : command.name = client.plugin
  stdin : command.stdin = call.message
  arguments : ∃ version envelope, Writable.ofString version = client.init.protocolVersion ∧
    command.arguments = [version, envelope]
  understood : client.init.protocolVersion = Writable.ofString protocolVersion →
    (∀ d ∈ call.context.deadline, d.timestamp.InMinutes) →
    ∃ payload args request, call.payload = .ok payload ∧ MethodArgs.of payload = .ok args ∧
      request.ofWritten = ⟨client.init, args⟩ ∧
      Plugin.parseArguments (command.name :: command.arguments) = .ok request
  refused : client.init.protocolVersion ≠ Writable.ofString protocolVersion →
    ∃ version, Writable.ofString version = client.init.protocolVersion ∧
      Plugin.parseArguments (command.name :: command.arguments) = .error (.version version)

/-- The commands that are launched for a call at an instant: none if there is no call, its
options are refused, its context is done or a text in its request cannot be written, and else
exactly one. -/
inductive Builds [Writable θ] (client : Client θ) (now : Instant) :
    Option (Call θ) → List Command → Prop
  | noCall : Builds client now none []
  | refused {call : Call θ} (refused : ¬ call.Accepted) : Builds client now (some call) []
  | done {call : Call θ} (done : (call.context.err? now).isSome) : Builds client now (some call) []
  | unwritable {call : Call θ} {args : MethodArgs θ} {fault : Text.Unwritable}
      (requests : call.request = .ok args)
      (unwritten : PluginArgs.written ⟨client.init, args⟩ = .error fault) :
      Builds client now (some call) []
  | launched {call : Call θ} {args : MethodArgs θ} {request : PluginArgs} {command : Command}
      (accepted : call.Accepted) (live : call.context.err? now = none)
      (requests : call.request = .ok args)
      (writes : PluginArgs.written ⟨client.init, args⟩ = .ok request)
      (carries : Carries client call command) : Builds client now (some call) [command]

section Records

variable [PemKey κ] [Writable θ]

private theorem carries_command {client : Client θ} {call : Call θ} {args : MethodArgs θ}
    {request : PluginArgs} (accepted : call.Accepted) (requests : call.request = .ok args)
    (writes : PluginArgs.written ⟨client.init, args⟩ = .ok request) :
    Carries client call
      (Invocation.command client.plugin call.message request.initOptions request.methodArgs) := by
  have written := PluginArgs.written_eq_ok.mp writes
  have version : Writable.ofString request.initOptions.protocolVersion =
      client.init.protocolVersion := congrArg (·.initOptions.protocolVersion) written
  have deadline : request.methodArgs.deadline? = args.deadline? :=
    (MethodArgs.deadline?_mapTexts _).symm.trans (congrArg (·.methodArgs.deadline?) written)
  refine ⟨rfl, rfl, ⟨_, _, version, rfl⟩, fun same whole => ?_, fun other => ⟨_, version, ?_⟩⟩
  · obtain ⟨payload, found, packed, makes, again⟩ := Call.request_of_accepted accepted
    obtain rfl : found = args := Except.ok.inj (again.symm.trans requests)
    refine ⟨payload, found, request, packed, makes, written, ?_⟩
    refine Plugin.parseArguments_command client.plugin
      (Writable.ofString_inj.mp (version.trans same)) (MethodArgs.inMinutes_of_deadline ?_)
    rw [deadline]
    exact Call.deadline_inMinutes requests whole
  · refine Plugin.parseArguments_otherVersion _ _ _ fun same => other ?_
    rw [← version, same]

/-- A call through a client is on record with the commands that it builds. -/
theorem ask_builds (client : Client θ) (launch : Launch τ) (now : Instant) (call : Call θ)
    (log : List Command) (world : τ) :
    ∃ built, ((client.ask (κ := κ) (recording launch) now call).run (log, world)).2.1 =
      log ++ built ∧
      Builds client now (some call) built := by
  rw [ask_request]
  by_cases accepted : call.Accepted
  · obtain ⟨_, args, -, -, requests⟩ := Call.request_of_accepted accepted
    rw [requests]
    cases done : call.context.err? now with
    | some reason =>
      refine ⟨[], ?_, .done (by simp [done])⟩
      simp only [StateT.run_bind, Invocation.invoke_done _ _ _ _ _ done, List.append_nil]
      rfl
    | none => cases writes : PluginArgs.written ⟨client.init, args⟩ with
      | error fault =>
        refine ⟨[], ?_, .unwritable requests writes⟩
        simp only [StateT.run_bind, Invocation.invoke_unwritable _ _ _ done writes, List.append_nil]
        rfl
      | ok request =>
        obtain ⟨_, _, ran⟩ :=
          Invocation.invoke_live (recording launch) client.plugin call.message done writes
            (log, world)
        refine ⟨[_], ?_, .launched accepted done requests writes
          (carries_command accepted requests writes)⟩
        simp only [StateT.run_bind, ran]
        rfl
  · obtain ⟨option, refused⟩ := Call.request_of_not_accepted accepted
    rw [refused]
    exact ⟨[], (List.append_nil log).symm, .refused accepted⟩

/-- What a caller wants is on record with the commands that its call builds. -/
theorem act_builds (client : Client θ) (launch : Launch τ) (now : Instant) (request : Request θ)
    (streams : Streams) (log : List Command) (world : τ) :
    ∃ built, ((client.act (κ := κ) (recording launch) now request).run
        (streams, log, world)).2.2.1 = log ++ built ∧
      Builds client now (request.call?.run streams).1 built := by
  rw [act_world]
  cases (request.call?.run streams).1 with
  | some call => exact ask_builds client launch now call log world
  | none => exact ⟨[], (List.append_nil log).symm, .noCall⟩

/-- However long a session is and whatever becomes of its calls, the processes that are
launched are those that each call builds, in their order: exactly one for a call with accepted
options under a live context whose request can be written, which is given this call and
nothing else, and none for any other. -/
theorem session_builds (client : Client θ) (launch : Launch τ) (turns : List (Instant × Request θ))
    (streams : Streams) (log : List Command) (world : τ) :
    ∃ built : List (List Command),
      ((client.session (κ := κ) (recording launch) turns).run (streams, log, world)).2.2.1 =
        log ++ built.flatten ∧
      List.Forall₂ (fun turn commands => Builds client turn.1 turn.2 commands)
        ((calls turns).run streams).1 built := by
  -- The streams after a turn do not depend on what its call came to, so both sides go on from
  -- the same ones.
  induction turns generalizing streams log world with
  | nil => exact ⟨[], (List.append_nil log).symm, .nil⟩
  | cons turn turns ih =>
    obtain ⟨now, request⟩ := turn
    obtain ⟨first, logged, builds⟩ :=
      act_builds (κ := κ) client launch now request streams log world
    have streamsAfter : ((client.act (κ := κ) (recording launch) now request).run
        (streams, log, world)).2.1 = (request.call?.run streams).2 :=
      congrArg Prod.fst (act_world client (recording launch) now request streams _)
    obtain ⟨rest, later, all⟩ := ih (request.call?.run streams).2
      ((client.act (κ := κ) (recording launch) now request).run (streams, log, world)).2.2.1
      ((client.act (κ := κ) (recording launch) now request).run (streams, log, world)).2.2.2
    refine ⟨first :: rest, ?_, ?_⟩
    · rw [List.flatten_cons, ← List.append_assoc, ← logged, ← later, ← streamsAfter, session,
        List.mapM_cons]
      rfl
    · rw [calls, List.mapM_cons]
      exact .cons builds all

/-- A call with accepted options under a live context does not always have a process: there is none
for an algorithm whose name holds a surrogate. -/
theorem session_builds_none :
    let launch : Launch Unit := fun _ _ => return { outcome := .returned [] }
    let client : Client CodeText :=
      { plugin := "plugin", init := { protocolVersion := "v1", keyResourceId := [] } }
    let algorithm : CodeText := [.surrogate 0]
    let call : Call CodeText := .createKey .background algorithm
    let turns := [(0, Request.createKey .background algorithm)]
    ((calls turns).run []).1 = [(0, some call)] ∧ call.Accepted ∧ call.context.err? 0 = none ∧
      ((client.session (κ := PublicKey) (recording launch) turns).run ([], [], ())).2.2.1 = [] :=
  ⟨rfl, trivial, rfl, rfl⟩

end Records

end Client
end SignerPlugin
