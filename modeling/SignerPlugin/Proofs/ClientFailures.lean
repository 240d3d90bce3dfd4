import SignerPlugin.Proofs.CallSessions
import SignerPlugin.Proofs.DispatchReply
import SignerPlugin.Proofs.RequestShape

/-! How the calls of a client can fail. Whatever a plugin does and writes, the client finds
the result of the method that was called, or says why there is none; only the text of a key
can still turn out to be no key, and only the texts of the caller to be such as cannot be
written. -/

namespace SignerPlugin

open Message Schema Command
open Text (CodeText Writable)

variable {κ θ : Type} [PemKey κ]

namespace Message

namespace Method

/-- The answer that a result stands for, unless it should be a key and is none. -/
def answer : (method : Method) → method.Result → Except Fault (Answer κ)
  | .defaultAlgorithm =>
    fun result : DefaultAlgorithmResp => .ok (.algorithm result.defaultAlgorithm)
  | .supportedAlgorithms =>
    fun result : SupportedAlgorithmsResp => .ok (.algorithms result.supportedAlgorithms)
  | .createKey => fun result : KeyResp => (PemKey.ofPem result.publicKeyPem).map .key
  | .publicKey => fun result : KeyResp => (PemKey.ofPem result.publicKeyPem).map .key
  | .signMessage => fun result : SignMessageResp => .ok (.signature result.signature)
  | .verifySignature => fun _ => .ok .verified

/-- The text of a key, in a result that should be one. -/
def pem? : (method : Method) → method.Result → Option Bytes
  | .createKey => fun result : KeyResp => some result.publicKeyPem
  | .publicKey => fun result : KeyResp => some result.publicKeyPem
  | .defaultAlgorithm => fun _ => none
  | .supportedAlgorithms => fun _ => none
  | .signMessage => fun _ => none
  | .verifySignature => fun _ => none

theorem answer_fits {method : Method} {result : method.Result} {answer : Answer κ}
    (stands : method.answer result = .ok answer) : answer.Fits method := by
  cases method with
  | createKey =>
    obtain ⟨key, -, rfl⟩ := map_eq_ok.mp stands
    exact .inl rfl
  | publicKey =>
    obtain ⟨key, -, rfl⟩ := map_eq_ok.mp stands
    exact .inr rfl
  | _ =>
    cases stands
    rfl

/-- A result stands for no answer exactly if it should be a key whose text is none. -/
private theorem answer_eq_error {method : Method} {result : method.Result} {fault : Fault} :
    (method.answer result : Except Fault (Answer κ)) = .error fault ↔
      ∃ pem, method.pem? result = some pem ∧
        (PemKey.ofPem pem : Except Fault κ) = .error fault := by
  have key (pem : Bytes) :
      ((PemKey.ofPem pem).map Answer.key : Except Fault (Answer κ)) = .error fault ↔
        ∃ text, some pem = some text ∧ (PemKey.ofPem text : Except Fault κ) = .error fault := by
    rw [map_eq_error]
    simp
  cases method with
  | createKey => exact key (KeyResp.publicKeyPem result)
  | publicKey => exact key (KeyResp.publicKeyPem result)
  | _ => simp [answer, pem?]

end Method

/-- A text is an object that gives a result for the method, in the method's own member. -/
def Method.WrittenIn (method : Method) (result : method.Result) (text : Bytes) : Prop :=
  ∃ members tree, Json.parse? text = some (.obj members) ∧
    present? method.member members = some tree ∧ method.resultCodec.read tree = .ok result

private theorem PluginResp.result?_written {text : Bytes} {reply : PluginResp}
    (decoded : form.decode text = .ok reply) {method : Method} {result : method.Result}
    (found : reply.result? method = some result) :
    method.WrittenIn result text := by
  obtain ⟨tree, parsed, read⟩ := Form.decode_eq_ok.mp decoded
  obtain ⟨members, rfl, -⟩ := Codec.record_read_eq_ok.mp read
  have member := Members.optional_read_eq_ok.mp ((members_read read).2 method)
  rw [found] at member
  cases given : present? method.member members with
  | none =>
    rw [given] at member
    cases member
  | some tree =>
    rw [given] at member
    obtain ⟨value, reads, same⟩ := member
    cases same
    exact ⟨members, tree, parsed, given, reads⟩

end Message

namespace Invocation

variable {τ : Type}

private theorem verdict_ne_unwritable (plugin : String) (method : Method) (ending : Ending)
    (fault : Text.Unwritable) :
    verdict plugin method ending ≠ .error (.unwritable fault) := by
  have read (stdout : Bytes) : parseReply plugin method stdout ≠ .error (.unwritable fault) := by
    intro failed
    rcases parseReply_error failed with unreadable | ⟨text, same⟩
    · exact unreadable
    · cases same
  cases ending with
  | returned stdout => exact read stdout
  | exited exit =>
    by_cases positive : 0 < exit.status
    · simpa [verdict, positive] using read _
    · simp [verdict, positive]
  | failed reason => simp [verdict]

section Invoked

variable [Writable θ] {launch : Launch τ} {plugin : String} {ctx : CallContext} {now : Instant}
  {stdin : Bytes} {init : InitOptions θ} {args : MethodArgs θ} {world : τ}

/-- A request is found not to be writable exactly if it is not and its context is live. -/
theorem invoke_eq_unwritable {fault : Text.Unwritable} :
    ((invoke launch plugin ctx now stdin init args).run world).1.result =
      .error (.unwritable fault) ↔
      ctx.err? now = none ∧ PluginArgs.written ⟨init, args⟩ = .error fault := by
  cases done : ctx.err? now with
  | some reason =>
    rw [invoke_done launch plugin stdin init args done world]
    simp
  | none => cases writes : PluginArgs.written ⟨init, args⟩ with
    | error other =>
      rw [invoke_unwritable launch plugin stdin done writes world]
      simp
    | ok request =>
      obtain ⟨elapsed, -, ran⟩ := invoke_live launch plugin stdin done writes world
      rw [ran]
      simp only [reduceCtorEq, and_false, iff_false]
      split
      · simp
      · exact verdict_ne_unwritable _ _ _ _

/-- A reply is read from the output that the run of the command left, and has a result for the
method. -/
theorem invoke_ok {reply : PluginResp}
    (replied : ((invoke launch plugin ctx now stdin init args).run world).1.result = .ok reply) :
    ∃ request, PluginArgs.written ⟨init, args⟩ = .ok request ∧ ∃ stdout, output plugin
        ((launch ((ctx.remaining? now).map Int.toNat)
          (command plugin stdin request.initOptions request.methodArgs)).run world).1.outcome =
            .ok stdout ∧
      PluginResp.form.decode stdout = .ok reply ∧ reply.has args.method := by
  cases done : ctx.err? now with
  | some reason =>
    rw [invoke_done launch plugin stdin init args done world] at replied
    cases replied
  | none => cases writes : PluginArgs.written ⟨init, args⟩ with
    | error fault =>
      rw [invoke_unwritable launch plugin stdin done writes world] at replied
      cases replied
    | ok request =>
      obtain ⟨elapsed, -, ran⟩ := invoke_live launch plugin stdin done writes world
      rw [ran] at replied
      simp only at replied
      split at replied
      · cases replied
      · rw [← conclude_live] at replied
        simp only [conclude] at replied
        cases left : output plugin ((launch ((ctx.remaining? now).map Int.toNat)
            (command plugin stdin request.initOptions request.methodArgs)).run world).1.outcome with
        | error error =>
          rw [left] at replied
          cases replied
        | ok stdout =>
          rw [left] at replied
          obtain ⟨-, decoded, has⟩ := parseReply_ok.mp replied
          exact ⟨request, rfl, stdout, left, decoded, has⟩

end Invoked

end Invocation

namespace Client

/-- A result that is there is taken for the answer that it stands for. -/
theorem read_eq (client : Client θ) {call : Call θ} {reply : PluginResp}
    {result : call.method.Result} (found : reply.result? call.method = some result) :
    client.read (κ := κ) call reply = (call.method.answer result).mapError .notAKey := by
  have key {pem : Bytes} : ((keyOf ⟨pem⟩).map Answer.key : Except (ClientError θ) (Answer κ)) =
      ((PemKey.ofPem pem).map Answer.key).mapError .notAKey := by
    unfold keyOf
    cases (PemKey.ofPem pem : Except Fault κ) <;> rfl
  cases call with
  | createKey ctx algorithm =>
    have found : reply.createKey = some result := found
    simp only [read, found, part]
    exact key
  | publicKey options =>
    have found : reply.publicKey = some result := found
    simp only [read, found, part]
    exact key
  | defaultAlgorithm =>
    have found : reply.defaultAlgorithm = some result := found
    simp only [read, found, part]
    rfl
  | supportedAlgorithms =>
    have found : reply.supportedAlgorithms = some result := found
    simp only [read, found, part]
    rfl
  | signMessage message options =>
    have found : reply.signMessage = some result := found
    simp only [read, found, part]
    rfl
  | verifySignature signature message options => rfl

/-- How what a caller gets of a method follows from what came of the invocation, and that from
how the command ended. The caller sees every failure of the invocation as it is. The request
is found not to be writable exactly if it is not and the context is not done. A reply has a
result for the method, written in the method's own member of the output; the caller gets the
answer that this result stands for, unless it should be a key and is none. -/
structure Follows (plugin : String) (method : Method) (done : Option ContextError)
    (ending : Except Text.Unwritable Ending) (invoked : Except InvocationError PluginResp)
    (asked : Except (ClientError θ) (Answer κ)) : Prop where
  invocation : ∀ error, asked = .error (.invocation error) ↔ invoked = .error error
  unwritable : ∀ fault, invoked = .error (.unwritable fault) ↔ done = none ∧ ending = .error fault
  accepted : ∀ option, asked ≠ .error (.misplaced option)
  notAKey : ∀ fault, asked = .error (.notAKey fault) ↔ ∃ reply result pem, invoked = .ok reply ∧
    reply.result? method = some result ∧ method.pem? result = some pem ∧
    (PemKey.ofPem pem : Except Fault κ) = .error fault
  answer : ∀ answer, asked = .ok answer ↔ ∃ reply result, invoked = .ok reply ∧
    reply.result? method = some result ∧ method.answer result = .ok answer
  fits : ∀ answer, asked = .ok answer → answer.Fits method
  written : ∀ reply, invoked = .ok reply →
    ∃ result ended stdout, reply.result? method = some result ∧
    ending = .ok ended ∧ Invocation.output plugin ended = .ok stdout ∧
      method.WrittenIn result stdout

section Follows

variable {plugin : String} {method : Method} {done : Option ContextError}
  {ending : Except Text.Unwritable Ending}

private theorem Follows.of_error {error : InvocationError}
    (unwritable : ∀ fault, error = .unwritable fault ↔ done = none ∧ ending = .error fault) :
    Follows (κ := κ) (θ := θ) plugin method done ending (.error error)
      (.error (.invocation error)) where
  invocation other := by simp
  unwritable fault := by simpa using unwritable fault
  accepted option := by simp
  notAKey fault := by simp
  answer answer := by simp
  fits answer same := nomatch same
  written reply same := nomatch same

private theorem Follows.of_ok {reply : PluginResp} {result : method.Result} {ended : Ending}
    {stdout : Bytes} (found : reply.result? method = some result)
    (left : Invocation.output plugin ended = .ok stdout)
    (written : method.WrittenIn result stdout) :
    Follows (κ := κ) (θ := θ) plugin method done (.ok ended) (.ok reply)
      ((method.answer result).mapError .notAKey) where
  invocation error := by simp [mapError_eq_error]
  unwritable fault := by simp
  accepted option := by simp [mapError_eq_error]
  notAKey fault := by
    simp only [mapError_eq_error, ClientError.notAKey.injEq, exists_eq_right,
      Method.answer_eq_error]
    constructor
    · rintro ⟨pem, text, fault⟩
      exact ⟨reply, result, pem, rfl, found, text, fault⟩
    · rintro ⟨_, other, pem, ⟨⟩, again, text, fault⟩
      obtain rfl : result = other := Option.some.inj (found.symm.trans again)
      exact ⟨pem, text, fault⟩
  answer answer := by
    rw [mapError_eq_ok]
    constructor
    · intro stands
      exact ⟨reply, result, rfl, found, stands⟩
    · rintro ⟨_, other, ⟨⟩, again, stands⟩
      obtain rfl : result = other := Option.some.inj (found.symm.trans again)
      exact stands
  fits answer same := Method.answer_fits (mapError_eq_ok.mp same)
  written _ same := by
    cases same
    exact ⟨result, ended, stdout, found, rfl, left, written⟩

end Follows

section Calls

variable {τ : Type} [Writable θ]

/-- What a caller gets is what comes of the call that is made. -/
theorem act_answered (client : Client θ) (launch : Launch τ) (now : Instant) {request : Request θ}
    {streams : Streams} {call : Call θ} (makes : (request.call?.run streams).1 = some call)
    (world : τ) :
    ((client.act (κ := κ) launch now request).run (streams, world)).1 =
      .answered ((client.ask launch now call).run world).1 := by
  cases request <;> cases makes <;> rfl

/-- What comes of the invocation that a call makes. -/
def invoked (client : Client θ) (launch : Launch τ) (now : Instant) (call : Call θ)
    (args : MethodArgs θ) (world : τ) : Except InvocationError PluginResp :=
  ((Invocation.invoke launch client.plugin call.context now call.message client.init args).run
    world).1.result

/-- How the run of the command ends that is launched for a call, if its request can be written. -/
def ending (client : Client θ) (launch : Launch τ) (now : Instant) (call : Call θ)
    (args : MethodArgs θ) (world : τ) : Except Text.Unwritable Ending := do
  let request ← PluginArgs.written ⟨client.init, args⟩
  let command :=
    Invocation.command client.plugin call.message request.initOptions request.methodArgs
  return ((launch ((call.context.remaining? now).map Int.toNat) command).run world).1.outcome

private theorem ending_eq_error {client : Client θ} {launch : Launch τ} {now : Instant}
    {call : Call θ} {args : MethodArgs θ} {world : τ} {fault : Text.Unwritable} :
    client.ending launch now call args world = .error fault ↔
      PluginArgs.written ⟨client.init, args⟩ = .error fault := by
  unfold ending
  cases PluginArgs.written ⟨client.init, args⟩ <;> simp [bind, Except.bind, pure, Except.pure]

/-- A call fails as its invocation does, or has the answer that the result of its method
stands for. -/
theorem ask_cases (client : Client θ) (launch : Launch τ) (now : Instant) {call : Call θ}
    {args : MethodArgs θ} (requests : call.request = .ok args) (world : τ) :
    (∃ error, client.invoked launch now call args world = .error error ∧
      ((client.ask (κ := κ) launch now call).run world).1 = .error (.invocation error)) ∨
    ∃ reply result, client.invoked launch now call args world = .ok reply ∧
      reply.result? call.method = some result ∧
      ((client.ask (κ := κ) launch now call).run world).1 =
        (call.method.answer result).mapError .notAKey := by
  have asked :=
    congrArg (fun action => (action.run world).1) (client.ask_request (κ := κ) launch now call)
  simp only [requests, StateT.run_bind] at asked
  cases comes : client.invoked launch now call args world with
  | error error =>
    have failed : ((Invocation.invoke launch client.plugin call.context now call.message
        client.init args).run
      world).1.result = .error error := comes
    refine .inl ⟨error, rfl, asked.trans ?_⟩
    simp only [bind, failed]
    rfl
  | ok reply =>
    have replied : ((Invocation.invoke launch client.plugin call.context now call.message
        client.init args).run
      world).1.result = .ok reply := comes
    obtain ⟨-, -, -, -, -, has⟩ := Invocation.invoke_ok replied
    rw [Call.method_of_request requests] at has
    obtain ⟨result, found⟩ := PluginResp.has_iff.mp has
    refine .inr ⟨reply, result, rfl, found, (asked.trans ?_).trans (client.read_eq found)⟩
    simp only [bind, replied]
    rfl

/-- However a plugin behaves, whatever it writes and whatever becomes of the context, what a
caller gets of a call with accepted options follows from the invocation. -/
theorem act_follows (client : Client θ) (launch : Launch τ) (now : Instant) (request : Request θ)
    (streams : Streams) (world : τ) {call : Call θ}
    (makes : (request.call?.run streams).1 = some call) (accepted : call.Accepted) :
    ∃ args asked, call.request = .ok args ∧
      ((client.act (κ := κ) launch now request).run (streams, world)).1 = .answered asked ∧
      Follows client.plugin call.method (call.context.err? now)
        (client.ending launch now call args world)
        (client.invoked launch now call args world) asked := by
  obtain ⟨_, args, -, -, requests⟩ := Call.request_of_accepted accepted
  refine ⟨args, _, requests, client.act_answered launch now makes world, ?_⟩
  obtain ⟨error, failed, asked⟩ | ⟨reply, result, replied, found, asked⟩ :=
    client.ask_cases (κ := κ) launch now requests world
  · rw [failed, asked]
    refine .of_error fun fault => ?_
    rw [ending_eq_error, ← Invocation.invoke_eq_unwritable, ← Except.error.injEq, ← failed]
    rfl
  · obtain ⟨written, writes, stdout, left, decoded, -⟩ := Invocation.invoke_ok replied
    have ended : client.ending launch now call args world =
        .ok ((launch ((call.context.remaining? now).map Int.toNat)
        (Invocation.command client.plugin call.message written.initOptions written.methodArgs)).run
          world).1.outcome := by
      rw [ending, writes]
      rfl
    rw [replied, asked, ended]
    exact .of_ok found left (PluginResp.result?_written decoded found)

end Calls

/-- Nulls and the results of other methods make no difference to the one that was called. -/
theorem act_follows_signMessage :
    let members : Json.Members :=
      [("createKey", .obj [("publicKeyPEM", .str "AA==")]), ("errorMessage", .null),
      ("sign_message", .null),
      ("signMessage", .obj [("other", .null), ("signature", .str "AQI=")]),
      ("verifySignature", .null)]
    let launch : Launch Unit := fun _ _ =>
      return { lasts := 5, outcome := .returned (Bytes.ofText (Json.render (.obj members))) }
    let client : Client := { plugin := "plugin", init := {} }
    ((client.act (κ := PublicKey) launch 0 (.signMessage (.stream 0) [.keyVersion "1"])).run
      ([[3]], ())).1 =
      .answered (.ok (.signature [1, 2])) := by
  intro members launch client
  let stdout := Bytes.ofText (Json.render (.obj members))
  let options : List SignerOption := [.keyVersion "1"]
  let args : MethodArgs := .signMessage ⟨Options.packSign options⟩
  let reply : PluginResp := { createKey := some ⟨[0]⟩, signMessage := some ⟨[1, 2]⟩ }
  have legible : Json.Legible true Json.wirePolicy.depth (.obj members) := by
    simp [Json.Legible, Json.wirePolicy, members]
  have parsed : Json.parse? stdout = some (.obj members) := Json.parse?_render legible
  have passes : Invocation.verdict "plugin" .signMessage (.returned stdout) = .ok reply := by
    rw [Invocation.verdict]
    exact Invocation.parseReply_ok.mpr
      ⟨.inl ⟨members, parsed, .inr ⟨"errorMessage", rfl⟩⟩,
        Form.decode_eq_ok.mpr ⟨_, parsed, rfl⟩, rfl⟩
  have ran : (Invocation.invoke launch "plugin" .background 0 [3] {} args).run () =
      (⟨Invocation.verdict "plugin" .signMessage (.returned stdout), .background,
        0 + (5 : Nat)⟩, ()) :=
    Invocation.invoke_ended (CallContext.err?_background _) (PluginArgs.written_string _)
      fun _ => rfl
  obtain ⟨_, asked, ⟨⟩, answered, follows⟩ :=
    client.act_follows (κ := PublicKey) launch 0 (.signMessage (.stream 0) options) [[3]]
      () rfl trivial
  have replied : client.invoked launch 0 (.signMessage [3] options) args () = .ok reply := by
    change ((Invocation.invoke launch "plugin" .background 0 [3] {} args).run ()).1.result =
      .ok reply
    rw [ran]
    simp only [passes]
  rw [answered, (follows.answer _).mpr ⟨reply, ⟨[1, 2]⟩, replied, rfl, rfl⟩]

/-- An algorithm whose name holds a surrogate is another reason to fail. -/
theorem act_follows_unwritable :
    let launch : Launch Unit := fun _ _ => return { outcome := .returned [] }
    let client : Client CodeText :=
      { plugin := "plugin", init := { protocolVersion := "v1", keyResourceId := [] } }
    let algorithm : CodeText := [.surrogate 0]
    ((client.act (κ := PublicKey) launch 0 (.createKey .background algorithm)).run ([], ())).1 =
      .answered (.error (.invocation (.unwritable ⟨algorithm, 0, by decide⟩))) := by
  intro launch client algorithm
  rfl

end Client
end SignerPlugin
