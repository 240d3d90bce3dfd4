import SignerPlugin.Plugin.Serve
import SignerPlugin.Proofs.DispatchReply

/-! Which failures of a plugin program its callers get to see. Arguments that are refused
always leave a message, and requests that fail leave one if it can be written; a signer that
cannot be made leaves one only if the failure has a text besides. -/

namespace SignerPlugin.Plugin

open Message Command Invocation
open Text (CodeText Writable)

private theorem ArgumentFault.message_ne_empty (fault : ArgumentFault) : fault.message ≠ "" := by
  have filled {start rest : String} (some : start ≠ "") : start ++ rest ≠ "" :=
    fun none => some (String.append_eq_empty_iff.mp none).1
  cases fault with
  | count found => exact filled (filled (by decide))
  | version sent => exact filled (filled (filled (by decide)))
  | request report => exact filled (by decide)
  | bindingVersion sent => exact filled (by decide)

namespace Served

/-- How the run of a program ends that leaves this. -/
def ending (words : List String) (served : Served) : Ending :=
  .ofStatus words served.status (Bytes.ofText served.output)

/-- Whatever the status, it is the output that is read. -/
theorem conclude_ending (served : Served) (plugin : String) (method : Method)
    (words : List String) :
    conclude plugin method none (served.ending words) = parseReply plugin method
      (Bytes.ofText served.output) := by
  rw [conclude_live, ending, Ending.ofStatus]
  by_cases good : (served.status : Int) = 0
  · rw [if_pos good]
    rfl
  · have positive : 0 < (served.status : Int) := by omega
    rw [if_neg good, verdict, if_pos positive]
    rfl

/-- What was written tells why the program failed, and whoever reads it under a live context
finds that the plugin returned this error. -/
structure ShowsFailure (served : Served) (message : String) : Prop where
  filled : message ≠ ""
  written : PluginResp.form.decode (Bytes.ofText served.output) = .ok (.failure message)
  seen : ∀ plugin method words, conclude plugin method none (served.ending words) =
    .error (.returned message)

theorem showsFailure {served : Served} {message : String} (filled : message ≠ "")
    (tells : served.output = PluginResp.form.encode (.failure message)) :
    served.ShowsFailure message where
  filled
  written := tells ▸ PluginResp.decode_encode (.failure message)
  seen plugin method words := by rw [conclude_ending, tells, parseReply_failure filled]

/-- A failure without text is not seen as one: what is missed is the result of the method. -/
theorem conclude_emptyFailure {served : Served}
    (tells : served.output = PluginResp.form.encode (.failure "")) (plugin : String)
    (method : Method) (words : List String) :
    conclude plugin method none (served.ending words) = .error (.missingResult plugin method) := by
  have whole := PluginResp.decode_encode (.failure "")
  have silent := errorReply_some.mp (errorReply_of_pluginResp whole)
  have unfit : (PluginResp.failure "").has method = false := by cases method <;> rfl
  rw [conclude_ending, tells, parseReply_of_silent (.inr silent), parseResult, whole]
  simp only [unfit, Bool.false_eq_true, if_false]

end Served

section Serve

variable {σ κ : Type} [PemKey κ] {factory : Factory σ κ} {now : Instant} {arguments : List String}
  {stdin : Bytes} {state after : σ} {args : PluginArgs}

theorem serve_refused {fault : ArgumentFault} (parsed : parseArguments arguments = .error fault) :
    (serve factory now arguments stdin).run state = (.ok (refused fault.message), state) := by
  simp only [serve, parsed]
  rfl

theorem serve_unmade {fault : Fault} (parsed : parseArguments arguments = .ok args)
    (failed : (factory args.initOptions).outcome state = (.error fault, after)) :
    (serve factory now arguments stdin).run state = (unmade fault, after) := by
  rw [Action.outcome] at failed
  simp only [serve, parsed, StateT.run_bind, failed]
  rfl

theorem serve_made {signer : Signer σ κ} (parsed : parseArguments arguments = .ok args)
    (made : (factory args.initOptions).outcome state = (.ok signer, after)) :
    (serve factory now arguments stdin).run state =
      (((dispatch signer now stdin args.methodArgs).run after).1.map (⟨0, ·⟩),
        ((dispatch signer now stdin args.methodArgs).run after).2) := by
  rw [Action.outcome] at made
  simp only [serve, parsed, StateT.run_bind, made]
  rfl

/-- What a failed request leaves, unless its message cannot be written. -/
theorem dispatch_failed {signer : Signer σ κ} {args : MethodArgs} {fault : Fault}
    (failed : ((perform signer now stdin args).outcome state).1 = .error fault) :
    ((dispatch signer now stdin args).run state).1 =
      (Writable.written fault.message).map fun message =>
        PluginResp.form.encode (.failure message) := by
  rw [dispatch_outcome, failed, telling, PluginResp.written_failure]
  cases Writable.written fault.message <;> rfl

end Serve

/-- What a program leaves when it fails. Refused arguments are seen by every caller as the
error that the plugin returned. So are a signer that cannot be made and a request that fails,
if what is to be reported of them can be written: otherwise nothing is left. But if the
failure to make a signer has no text, the message is empty, and the caller sees a reply
without result. -/
theorem serve_failure {σ κ : Type} [PemKey κ] (factory : Factory σ κ)
    (named : ∀ init before signer after, (factory init).outcome before = (.ok signer, after) →
    signer.NamesFaults) (now : Instant) (arguments : List String) (stdin : Bytes) (state : σ) :
    let served := ((serve factory now arguments stdin).run state).1
    match parseArguments arguments with
    | .error fault => ∃ left, served = .ok left ∧ left.status = 1 ∧ left.ShowsFailure fault.message
    | .ok args => match (factory args.initOptions).outcome state with
      | (.error fault, _) =>
        (∀ unwritten, Writable.written fault.text = .error unwritten → served = .error unwritten) ∧
        ∀ text, CodeText.ofString text = fault.text → ∃ left, served = .ok left ∧ left.status = 1 ∧
          PluginResp.form.decode (Bytes.ofText left.output) = .ok (.failure text) ∧
          (text ≠ "" → left.ShowsFailure text) ∧
          (text = "" → ∀ plugin method words,
            conclude plugin method none (left.ending words) = .error (.missingResult plugin method))
      | (.ok signer, after) =>
        (∀ left, served = .ok left → left.status = 0) ∧
        ∀ fault, ((perform signer now stdin args.methodArgs).outcome after).1 = .error fault →
          let reported := if fault.text = [] then CodeText.ofString fault.label else fault.text
          (∀ unwritten, Writable.written reported = .error unwritten → served = .error unwritten) ∧
          ∀ message, CodeText.ofString message = reported →
            ∃ left, served = .ok left ∧ left.ShowsFailure message := by
  intro served
  -- The cases are the three places at which a program can stop.
  cases parsed : parseArguments arguments with
  | error fault =>
    have same : served = .ok (refused fault.message) := congrArg Prod.fst (serve_refused parsed)
    exact ⟨_, same, rfl, Served.showsFailure fault.message_ne_empty rfl⟩
  | ok args =>
    simp only
    rcases made : (factory args.initOptions).outcome state with ⟨fault | signer, after⟩
    · have same : served = unmade fault := congrArg Prod.fst (serve_unmade parsed made)
      refine ⟨fun unwritten refuses => ?_, fun text told => ⟨refused text, ?_, rfl, ?_⟩⟩
      · rw [same, unmade, refuses]
        rfl
      · rw [same, unmade, Writable.written_eq_ok.mpr told]
        rfl
      · refine ⟨PluginResp.decode_encode (.failure text),
          fun filled => Served.showsFailure filled rfl, ?_⟩
        rintro rfl
        exact Served.conclude_emptyFailure rfl
    · have same : served = _ := congrArg Prod.fst (serve_made parsed made)
      refine ⟨?_, fun fault failed => ?_⟩
      · intro left leaves
        rw [same] at leaves
        cases written : ((dispatch signer now stdin args.methodArgs).run after).1 with
        | error unwritten =>
          rw [written] at leaves
          cases leaves
        | ok document =>
          rw [written] at leaves
          cases leaves
          rfl
      · have filled := perform_fault_message (named args.initOptions state signer after made) failed
        rw [dispatch_failed failed] at same
        refine ⟨fun unwritten (refuses : Writable.written fault.message = _) => ?_,
          fun message told => ?_⟩
        · rw [same, refuses]
          rfl
        · have text : Writable.written fault.message = .ok message :=
            Writable.written_eq_ok.mpr told
          rw [text] at same
          exact ⟨_, same, Served.showsFailure (Fault.told_ne_empty filled told) rfl⟩

theorem serve_failure_badSignature :
    let signer : Signer Nat :=
      { defaultAlgorithm := pure "ED25519"
        supportedAlgorithms := pure ["ED25519"]
        createKey := fun _ _ => Action.fail ⟨"NotImplementedError", []⟩
        publicKey := fun _ => Action.fail ⟨"NotImplementedError", []⟩
        signMessage := fun message _ => pure message
        verifySignature := fun _ _ _ => Action.fail ⟨"InvalidSignature", []⟩ }
    let factory : Factory Nat := fun init =>
      if init.keyResourceId = "" then Action.fail ⟨"ValueError", "no key"⟩ else pure signer
    let arguments := "plugin" ::
      (Invocation.command "plugin" [] { keyResourceId := "k" }
        (.verifySignature { signature := [1] })).arguments
    ∃ left, ((serve factory 0 arguments [2]).run 0).1 = .ok left ∧ left.status = 0 ∧
      left.ShowsFailure "InvalidSignature" := by
  intro signer factory arguments
  have named : ∀ init before made after, (factory init).outcome before = (.ok made, after) →
      made.NamesFaults := by
    intro init before made after makes
    by_cases keyless : init.keyResourceId = ""
    · simp only [factory, keyless, if_true] at makes
      cases makes
    · simp only [factory, keyless, if_false] at makes
      cases makes
      refine ⟨fun call state fault failed => ?_, fun _ _ failed => nomatch failed⟩
      cases call <;> cases failed <;> decide
  have parsed : parseArguments arguments =
      .ok ⟨{ keyResourceId := "k" }, .verifySignature { signature := [1] }⟩ :=
    parseArguments_command "plugin" rfl
      (MethodArgs.inMinutes_verifySignature (by simp [VerifySignatureArgs.InMinutes,
      RpcOptions.InMinutes]))
  -- From here on only what the arguments are parsed to matters, and their text must not be
  -- computed.
  clear_value arguments
  have fails := serve_failure factory named 0 arguments [2] 0
  rw [parsed] at fails
  obtain ⟨status, seen⟩ := fails
  obtain ⟨left, same, shows⟩ := (seen ⟨"InvalidSignature", []⟩ rfl).2 "InvalidSignature" rfl
  exact ⟨left, same, status left same, shows⟩

/-- Not every failure is seen: one that has no text, of making the signer, is taken for a
reply without result. -/
theorem serve_unmade_unseen :
    let factory : Factory Unit := fun _ => Action.fail ⟨"ValueError", []⟩
    let arguments :=
      "plugin" :: (Invocation.command "plugin" [] {} (.defaultAlgorithm {})).arguments
    let left : Served := ⟨1, "\x7b\"errorMessage\":\"\"\x7d"⟩
    ((serve factory 0 arguments []).run ()).1 = .ok left ∧
      ¬ (∃ message, left.ShowsFailure message) ∧
      conclude "plugin" .defaultAlgorithm none (left.ending ["plugin"]) =
        .error (.missingResult "plugin" .defaultAlgorithm) := by
  intro factory arguments left
  have parsed : parseArguments arguments = .ok ⟨{}, .defaultAlgorithm {}⟩ :=
    parseArguments_command "plugin" rfl (MethodArgs.inMinutes_defaultAlgorithm {})
  clear_value arguments
  have fails : (factory {}).outcome () = (.error ⟨"ValueError", []⟩, ()) := rfl
  have same : ((serve factory 0 arguments []).run ()).1 = .ok (refused "") :=
    congrArg Prod.fst (serve_unmade parsed fails)
  have text : PluginResp.form.encode (.failure "") = "\x7b\"errorMessage\":\"\"\x7d" := by
    decide +kernel
  have tells : left.output = PluginResp.form.encode (.failure "") := text.symm
  have missed := Served.conclude_emptyFailure tells "plugin" .defaultAlgorithm ["plugin"]
  refine ⟨by rw [same, refused, text], ?_, missed⟩
  rintro ⟨message, shown⟩
  rw [shown.seen] at missed
  cases missed

end SignerPlugin.Plugin
