import SignerPlugin.Proofs.ReplyParsing
import SignerPlugin.Proofs.RequestedCall

/-! What is written for a request: one reply, either the result of the method or the message of a
failure, which is never empty. The other side reads it as the one or the other. A reply with a text
that cannot be written is not written at all. -/

namespace SignerPlugin

open Message
open Text (CodeText Writable)

/-- A reply is read as it was written. -/
theorem Message.PluginResp.decode_encode (reply : PluginResp) :
    PluginResp.form.decode (Bytes.ofText (PluginResp.form.encode reply)) = .ok reply :=
  (Schema.Form.roundTrips PluginResp.codec_legible (PluginResp.codec_restores reply)).wire

namespace Invocation

/-- A reply that is a result of the method is given back as it was written. -/
theorem parseReply_result {plugin : String} {method : Method} {result : PluginResp}
    (quiet : result.errorMessage = none) (has : result.has method) :
    parseReply plugin method (Bytes.ofText (PluginResp.form.encode result)) = .ok result := by
  have whole := PluginResp.decode_encode result
  have alone := errorReply_of_pluginResp whole
  rw [quiet] at alone
  exact parseReply_ok.mpr ⟨.inl (errorReply_none.mp alone), whole, has⟩

theorem parseReply_failure {plugin : String} {method : Method} {message : String}
    (filled : message ≠ "") :
    parseReply plugin method (Bytes.ofText (PluginResp.form.encode (.failure message))) =
      .error (.returned message) := by
  have whole := PluginResp.decode_encode (.failure message)
  exact parseReply_returned.mpr ⟨errorReply_some.mp (errorReply_of_pluginResp whole), filled⟩

end Invocation

namespace Plugin

open Invocation

variable {σ κ : Type} [PemKey κ] {signer : Signer σ κ} {now : Instant} {stdin : Bytes}
  {args : MethodArgs}

/-- Every failure to have a result has something to report, also that of showing a key. -/
theorem perform_fault_message (named : signer.NamesFaults) {state : σ} {fault : Fault}
    (failed : ((perform signer now stdin args).outcome state).1 = .error fault) :
    fault.message ≠ [] := by
  rw [perform_outcome] at failed
  cases answered : ((answer signer now stdin args).outcome state).1 with
  | error other =>
    rw [answered] at failed
    cases failed
    exact answer_fault_message named answered
  | ok answer =>
    rw [answered] at failed
    obtain ⟨made, -, unshown⟩ := Answer.reply_eq_error.mp failed
    exact Fault.message_ne_nil (named.keys made fault unshown)

/-- A result is that of the requested method and nothing else. -/
theorem perform_alone {state : σ} {reply : PluginResp CodeText}
    (performed : ((perform signer now stdin args).outcome state).1 = .ok reply) :
    reply.errorMessage = none ∧ ∀ method, reply.has method ↔ method = args.method := by
  rw [perform_outcome] at performed
  cases answered : ((answer signer now stdin args).outcome state).1 with
  | error fault =>
    rw [answered] at performed
    cases performed
  | ok answer =>
    rw [answered] at performed
    exact Answer.reply_alone (answer_fits answered) performed

/-- A reply is written as one document, whose bytes are counted. -/
theorem writeReply_eq {θ : Type} [Writable θ] (output : Bytes) {reply : PluginResp θ}
    {document : PluginResp} (writes : reply.written = .ok document) :
    writeReply output reply = (output ++ Bytes.ofText (PluginResp.form.encode document),
      .ok (PluginResp.form.encode document).utf8ByteSize) := by
  rw [writeReply, writes]
  rfl

private theorem writeReply_unwritable {θ : Type} [Writable θ] (output : Bytes)
    {reply : PluginResp θ} {fault : Text.Unwritable} (refused : reply.written = .error fault) :
    writeReply output reply = (output, .error fault) := by
  rw [writeReply, refused]

theorem respond_outcome (output : Bytes) (state : σ) :
    (respond signer now stdin args output).run state =
      (writeReply output (telling ((perform signer now stdin args).outcome state).1),
        ((perform signer now stdin args).outcome state).2) := rfl

/-- The message of a failure that is written is what is reported of it, and is seen as such. -/
private theorem telling_failure {fault : Fault} {reply : PluginResp} (filled : fault.message ≠ [])
    (writes : (telling (.error fault)).written = .ok reply) :
    ∃ message, CodeText.ofString message = fault.message ∧ message ≠ "" ∧
      reply = .failure message ∧ ∀ plugin method,
        parseReply plugin method (Bytes.ofText (PluginResp.form.encode reply)) =
          .error (.returned message) := by
  rw [telling, PluginResp.written_failure] at writes
  obtain ⟨message, text, rfl⟩ := map_eq_ok.mp writes
  have same : CodeText.ofString message = fault.message := Writable.written_eq_ok.mp text
  have some : message ≠ "" := Fault.told_ne_empty filled same
  exact ⟨message, same, some, rfl, fun plugin method => parseReply_failure some⟩

/-- What is written for a request, behind what stands on the output already. A reply with a
text that cannot be written is not written at all. Any other is one document, and the number
of its bytes is told. It is read as the reply that was written: only the message of the
failure, which is not empty, or only the result of the method, which shows what the signer
answered. In the one case the other side finds the error that the plugin returned, in the
other the reply. A signer that is stopped by the context of its call fails like any other, and
so does one whose key cannot be shown. -/
theorem respond_classifiable (signer : Signer σ κ) (named : signer.NamesFaults) (now : Instant)
    (stdin : Bytes) (args : MethodArgs) (output : Bytes) (state : σ) :
    let answered := (answer signer now stdin args).outcome state
    let shown := answered.1.bind (·.reply args.method)
    let responded := (respond signer now stdin args output).run state
    match (telling shown).written with
    | .error fault => responded = ((output, .error fault), answered.2)
    | .ok reply =>
      let document := PluginResp.form.encode reply
      responded = ((output ++ Bytes.ofText document, .ok document.utf8ByteSize), answered.2) ∧
      PluginResp.form.decode (Bytes.ofText document) = .ok reply ∧ reply.ofWritten = telling shown ∧
      match shown with
      | .error fault => ∃ message,
        CodeText.ofString message = (if fault.text = [] then ↑fault.label else fault.text) ∧
          message ≠ "" ∧ reply = .failure message ∧ ∀ plugin,
            parseReply plugin args.method (Bytes.ofText document) = .error (.returned message)
      | .ok _ => reply.errorMessage = none ∧ (∀ method, reply.has method ↔ method = args.method) ∧
        ∀ plugin, parseReply plugin args.method (Bytes.ofText document) = .ok reply := by
  intro answered shown responded
  have comes : responded = (writeReply output (telling shown), answered.2) := by
    have ran : responded = _ := respond_outcome output state
    rwa [perform_outcome] at ran
  have performed : ((perform signer now stdin args).outcome state).1 = shown := by
    rw [perform_outcome]
  clear_value shown
  cases writes : (telling shown).written with
  | error fault =>
    rw [writeReply_unwritable output writes] at comes
    exact comes
  | ok reply =>
    rw [writeReply_eq output writes] at comes
    refine ⟨comes, PluginResp.decode_encode reply, PluginResp.written_eq_ok.mp writes, ?_⟩
    cases shown with
    | error fault =>
      obtain ⟨message, same, filled, alone, seen⟩ :=
        telling_failure (perform_fault_message named performed) writes
      exact ⟨message, same, filled, alone, fun plugin => seen plugin args.method⟩
    | ok result =>
      obtain ⟨quiet, alone⟩ := perform_alone performed
      have quiet := PluginResp.errorMessage_written writes quiet
      have same (method : Method) : reply.has method ↔ method = args.method := by
        rw [PluginResp.has_written writes]
        exact alone method
      exact ⟨quiet, same, fun plugin => parseReply_result quiet ((same _).mpr rfl)⟩

theorem respond_classifiable_emptyText :
    let signer : Signer Nat :=
      { defaultAlgorithm := pure "ED25519"
        supportedAlgorithms := pure ["ED25519"]
        createKey := fun _ _ => Action.fail ⟨"NotImplementedError", []⟩
        publicKey := fun _ => pure (.ed25519 (List.replicate 32 7))
        signMessage := fun message _ => pure message
        verifySignature := fun _ _ _ =>
          ExceptT.mk fun state => (.error ⟨"InvalidSignature", []⟩, state + 1) }
    let document := PluginResp.form.encode (.failure "InvalidSignature")
    (respond signer 0 [2] (.verifySignature { signature := [1] }) [10]).run 0 =
        ((10 :: Bytes.ofText document, .ok 35), 1) ∧
      parseReply "plugin" .verifySignature (Bytes.ofText document) =
        .error (.returned "InvalidSignature") := by
  intro signer document
  have named : signer.NamesFaults := by
    refine ⟨fun call state fault failed => ?_, fun _ _ failed => nomatch failed⟩
    cases call <;> cases failed <;> decide
  obtain ⟨ran, -, -, message, same, -, alone, seen⟩ :=
    respond_classifiable signer named 0 [2] (.verifySignature { signature := [1] }) [10] 0
  obtain rfl : message = "InvalidSignature" := Writable.ofString_inj.mp same
  exact ⟨ran, seen "plugin"⟩

/-- A request is not always answered with a document: there is none for a failure whose text holds a
surrogate. -/
theorem respond_unwritten :
    let fault : Fault := ⟨"ValueError", [.surrogate 0]⟩
    let signer : Signer Unit :=
      { defaultAlgorithm := Action.fail fault
        supportedAlgorithms := Action.fail fault
        createKey := fun _ _ => Action.fail fault
        publicKey := fun _ => Action.fail fault
        signMessage := fun _ _ => Action.fail fault
        verifySignature := fun _ _ _ => Action.fail fault }
    (respond signer 0 [] (.defaultAlgorithm {}) []).run () =
      (([], .error ⟨fault.text, 0, by decide⟩), ()) := by
  intro fault signer
  rfl

end Plugin
end SignerPlugin
