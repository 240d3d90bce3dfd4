import SignerPlugin.Proofs.FailureVisibility
import SignerPlugin.Proofs.MessageShapes

/-! A plugin program from its arguments to its exit status. Its arguments are looked at in a
fixed order; a signer is asked for only if they pass, and is used only if it could be made;
and whatever comes of that, one document is written, unless a text of the reply cannot be. -/

namespace SignerPlugin

open Message Schema
open Text (CodeText Writable)

namespace Message

namespace InitOptions

/-- The version in a binding: that of its own member, or else the version of the protocol. -/
theorem version_read {tree : Json} {init : InitOptions} (read : codec.read tree = .ok init) :
    ∃ binding, tree = .obj binding ∧ match counted? [] versionMember binding with
      | some version => version = .str init.protocolVersion
      | none => init.protocolVersion = Message.protocolVersion := by
  obtain ⟨binding, rfl, reads⟩ := Codec.record_read_eq_ok.mp read
  simp only [Members.and_read_eq_ok, Members.none_read_eq_ok] at reads
  obtain ⟨_, hash, ⟨_, key, ⟨_, version, rfl, first, rfl⟩, _, rfl⟩, _, rfl⟩ := reads
  have found := Checked.toOption_eq_some.mpr first
  rw [Members.toOption_defaulted] at found
  refine ⟨binding, rfl, ?_⟩
  change (counted? [] versionMember binding).elim _ _ = _ at found
  cases given : counted? [] versionMember binding with
  | none =>
    rw [given] at found
    exact (Option.some.inj found).symm
  | some tree =>
    rw [given] at found
    cases tree with
    | str text => exact congrArg JsonTree.str (Option.some.inj found)
    | _ => cases found

end InitOptions

namespace PluginArgs

/-- The tree that counts for the binding of an envelope, of either shape. -/
def bindingTree? (members : Json.Members) : Option Json :=
  counted? (if (counted? [] argsMember members).isSome then [] else [bindingMember])
    bindingMember members

/-- The binding of an envelope is read from the tree that counts for it. -/
theorem binding_read {tree : Json} {args : PluginArgs} (read : codec.read tree = .ok args) :
    ∃ members binding, tree = .obj members ∧ bindingTree? members = some binding ∧
      InitOptions.codec.read binding = .ok args.initOptions := by
  have parted : ∃ members, tree = .obj members := by
    cases tree with
    | obj members => exact ⟨members, rfl⟩
    | _ => cases read
  obtain ⟨members, rfl⟩ := parted
  by_cases apart : (counted? [] argsMember members).isSome
  · have reads : nested.read (.obj members) = .ok args := by
      rw [← Checked.toOption_eq_some, ← toOption_codec_nested apart, read]
      rfl
    simp only [nested, Codec.record_read_eq_ok, Members.and_read_eq_ok,
      Members.none_read_eq_ok] at reads
    obtain ⟨_, ⟨⟩, _, _, ⟨_, init, rfl, first, rfl⟩, _, rfl⟩ := reads
    obtain ⟨spelling, binding, given, reads⟩ := Members.required_read_eq_ok.mp first
    refine ⟨members, binding, rfl, ?_, reads⟩
    rw [bindingTree?, if_pos apart, ← given?_tree, given]
    rfl
  · have flat := Option.not_isSome_iff_eq_none.mp apart
    have found := toOption_codec_flat flat
    rw [read] at found
    obtain ⟨init, reads, rest⟩ := Option.bind_eq_some_iff.mp found.symm
    obtain ⟨method, _, rfl⟩ := Option.map_eq_some_iff.mp rest
    rw [Checked.toOption_eq_some] at reads
    cases given : counted? [bindingMember] bindingMember members with
    | none =>
      rw [given] at reads
      cases reads
    | some binding =>
      rw [given] at reads
      exact ⟨members, binding, rfl, by rw [bindingTree?, if_neg apart, given], reads⟩

end PluginArgs

end Message

namespace Plugin

variable {σ α κ : Type}

/-- What the arguments of a program come to: the request in them, or a refusal, of which it is
told whether it is for another version of the protocol. -/
inductive Verdict : List String → Except Bool PluginArgs → Prop
  | count {arguments : List String} (other : arguments.length ≠ 3) :
      Verdict arguments (.error false)
  | version {program version request : String} (other : version ≠ "v1") :
      Verdict [program, version, request] (.error true)
  | request {program request : String}
      (undecoded : ∀ args, PluginArgs.form.decode (Bytes.ofText request) ≠ .ok args) :
      Verdict [program, "v1", request] (.error false)
  | binding {program request : String} {args : PluginArgs}
      (decoded : PluginArgs.form.decode (Bytes.ofText request) = .ok args)
      (other : args.initOptions.protocolVersion ≠ "v1") :
        Verdict [program, "v1", request] (.error true)
  | accepted {program request : String} {args : PluginArgs}
      (decoded : PluginArgs.form.decode (Bytes.ofText request) = .ok args)
      (same : args.initOptions.protocolVersion = "v1") : Verdict [program, "v1", request] (.ok args)

theorem Verdict.parsed {arguments : List String} {verdict : Except Bool PluginArgs}
    (comes : Verdict arguments verdict) :
    (parseArguments arguments).mapError ArgumentFault.isVersionFault = verdict := by
  cases comes with
  | count other =>
    unfold parseArguments
    split
    · exact absurd rfl other
    · rfl
  | version other =>
    simp only [parseArguments, protocolVersion, ne_eq, other, not_false_eq_true, if_true]
    rfl
  | @request program request undecoded =>
    simp only [parseArguments, protocolVersion, ne_eq, not_true_eq_false, if_false]
    cases decoded : PluginArgs.form.decode (Bytes.ofText request) with
    | ok args => exact absurd decoded (undecoded args)
    | error report => rfl
  | binding decoded other =>
    simp only [parseArguments, protocolVersion, ne_eq, not_true_eq_false, if_false, decoded,
      other, not_false_eq_true, if_true]
    rfl
  | accepted decoded same =>
    simp only [parseArguments, protocolVersion, ne_eq, not_true_eq_false, if_false, decoded, same]
    rfl

private theorem Verdict.of_arguments (arguments : List String) :
    ∃ verdict, Verdict arguments verdict := by
  by_cases three : arguments.length = 3
  · obtain ⟨program, version, request, rfl⟩ := List.length_eq_three.mp three
    by_cases same : version = "v1"
    · subst same
      cases decoded : PluginArgs.form.decode (Bytes.ofText request) with
      | error report => exact ⟨_, .request fun args ok => by rw [decoded] at ok; cases ok⟩
      | ok args =>
        by_cases binding : args.initOptions.protocolVersion = "v1"
        · exact ⟨_, .accepted decoded binding⟩
        · exact ⟨_, .binding decoded binding⟩
    · exact ⟨_, .version same⟩
  · exact ⟨_, .count three⟩

/-- Arguments come to exactly what they are parsed to. -/
theorem verdict_iff {arguments : List String} {verdict : Except Bool PluginArgs} :
    Verdict arguments verdict ↔
      (parseArguments arguments).mapError ArgumentFault.isVersionFault = verdict := by
  refine ⟨Verdict.parsed, fun parsed => ?_⟩
  obtain ⟨found, comes⟩ := Verdict.of_arguments arguments
  obtain rfl := comes.parsed.symm.trans parsed
  exact comes

/-- What a program makes others do: a signer is made for a binding, or a signer answers a call. -/
inductive Deed
  | make (init : InitOptions)
  | call (call : Call)
  deriving DecidableEq, Repr

/-- An action before which a deed is put on record. -/
def noting (deed : Deed) (action : Action σ α) : Action (List Deed × σ) α :=
  ExceptT.mk fun (log, state) => ((action.outcome state).1, log ++ [deed], (action.outcome state).2)

/-- The signer whose calls are put on record. -/
def watched (signer : Signer σ κ) : Signer (List Deed × σ) κ where
  defaultAlgorithm := noting (.call .defaultAlgorithm) signer.defaultAlgorithm
  supportedAlgorithms := noting (.call .supportedAlgorithms) signer.supportedAlgorithms
  createKey ctx algorithm :=
    noting (.call (.createKey ctx algorithm)) (signer.createKey ctx algorithm)
  publicKey options := noting (.call (.publicKey options)) (signer.publicKey options)
  signMessage message options :=
    noting (.call (.signMessage message options)) (signer.signMessage message options)
  verifySignature signature message options :=
    noting (.call (.verifySignature signature message options))
      (signer.verifySignature signature message options)

/-- The factory whose uses are put on record, with the calls of the signers that it makes. -/
def Factory.recorded (factory : Factory σ κ) : Factory (List Deed × σ) κ := fun init =>
  watched <$> noting (.make init) (factory init)

private theorem watched_outcome (signer : Signer σ κ) (call : Call) (log : List Deed) (state : σ) :
    ((watched signer).answer call).outcome (log, state) =
      (((signer.answer call).outcome state).1, log ++ [.call call],
        ((signer.answer call).outcome state).2) := by
  cases call <;> simp only [Signer.answer, Action.outcome_map] <;> rfl

theorem Factory.recorded_outcome (factory : Factory σ κ) (init : InitOptions) (log : List Deed)
    (state : σ) :
    (factory.recorded init).outcome (log, state) =
      (((factory init).outcome state).1.map watched, log ++ [.make init],
        ((factory init).outcome state).2) :=
  Action.outcome_map _ _ _

/-- A request makes the signer answer one call at most, and that is the call which it asks for. -/
theorem answer_watched (signer : Signer σ κ) (now : Instant) (stdin : Bytes) (args : MethodArgs)
    (log : List Deed) (state : σ) :
    ∃ (result : Except Fault (Answer κ CodeText)) (calls : List Call) (after : σ),
      (answer (watched signer) now stdin args).outcome (log, state) =
        (result, log ++ calls.map Deed.call, after) ∧
      calls.length ≤ 1 ∧ ∀ call ∈ calls, args.call stdin = .ok call := by
  obtain ⟨fault, same⟩ | ⟨reason, same⟩ | ⟨call, asks, same⟩ :=
    answer_cases (watched signer) now stdin args (log, state)
  · exact ⟨_, [], state, by simpa using same, by simp, by simp⟩
  · exact ⟨_, [], state, by simpa using same, by simp, by simp⟩
  · rw [watched_outcome] at same
    exact ⟨_, [call], _, same, by simp, by simpa using asks⟩

/-- What a program leaves that ends with a status and is to write a reply. -/
def leaves (status : Nat) (reply : PluginResp CodeText) : Except Text.Unwritable Served :=
  reply.written.map fun document => ⟨status, PluginResp.form.encode document⟩

/-- A failure whose message is a string leaves it in any case. -/
private theorem leaves_failure (message : String) :
    leaves 1 (.failure message) = .ok (refused message) := by
  have writes : Writable.written (CodeText.ofString message) = .ok message :=
    Writable.written_ofString message
  rw [leaves, PluginResp.written_failure, writes]
  rfl

theorem leaves_unmade (fault : Fault) : leaves 1 (.failure fault.text) = unmade fault := by
  rw [leaves, PluginResp.written_failure, unmade]
  cases Writable.written fault.text <;> rfl

theorem leaves_written (reply : PluginResp CodeText) :
    (reply.written.map PluginResp.form.encode).map (⟨0, ·⟩) = leaves 0 reply := by
  rw [leaves]
  cases reply.written <;> rfl

theorem ending_writeReply (status : Nat) (output : Bytes) (reply : PluginResp CodeText) :
    serveOnto.ending status (writeReply output reply) = match leaves status reply with
      | .error fault => (output, .error fault)
      | .ok left => (output ++ Bytes.ofText left.output, .ok left.status) := by
  rw [writeReply, leaves]
  cases reply.written <;> rfl

section Serve

variable [PemKey κ] {factory : Factory σ κ} {now : Instant} {arguments : List String}
  {stdin : Bytes} {log : List Deed} {state : σ}

/-- Serving onto an output leaves there what is served, behind what stood there. -/
theorem serveOnto_run (factory : Factory σ κ) (now : Instant) (arguments : List String)
    (stdin output : Bytes) (state : σ) :
    (serveOnto factory now arguments stdin output).run state =
      let served := (serve factory now arguments stdin).run state
      (match served.1 with
        | .error fault => (output, .error fault)
        | .ok left => (output ++ Bytes.ofText left.output, .ok left.status), served.2) := by
  cases parsed : parseArguments arguments with
  | error fault =>
    simp only [serve_refused parsed, serveOnto, parsed,
      writeReply_eq output (PluginResp.written_string _)]
    rfl
  | ok args =>
    rcases made : (factory args.initOptions).outcome state with ⟨fault | signer, after⟩
    · rw [serve_unmade parsed made, ← leaves_unmade]
      simp only [← ending_writeReply]
      rw [Action.outcome] at made
      simp only [serveOnto, parsed, StateT.run_bind, made]
      rfl
    · rw [serve_made parsed made, dispatch_outcome, leaves_written]
      simp only [← ending_writeReply]
      rw [Action.outcome] at made
      simp only [serveOnto, parsed, StateT.run_bind, made]
      rfl

/-- How a program is to be served that ends with a status after it made others do some things:
well exactly if its arguments are accepted and the signer can be made; a signer is made for
nothing but the binding of an accepted request, once, and it answers the call of this request
or none. -/
structure Orderly (factory : Factory σ κ) (arguments : List String) (stdin : Bytes) (state : σ)
    (status : Nat) (deeds : List Deed) : Prop where
  ends : status = 0 ∨ status = 1
  well : status = 0 ↔ ∃ args signer made, parseArguments arguments = .ok args ∧
    (factory args.initOptions).outcome state = (.ok signer, made)
  refused : ∀ fault, parseArguments arguments = .error fault → deeds = []
  accepted : ∀ args, parseArguments arguments = .ok args → ∃ calls : List Call,
    deeds = .make args.initOptions :: calls.map .call ∧ calls.length ≤ 1 ∧
      (∀ call ∈ calls, args.methodArgs.call stdin = .ok call) ∧ (calls ≠ [] → status = 0)

theorem serve_recorded (factory : Factory σ κ) (now : Instant) (arguments : List String)
    (stdin : Bytes) (log : List Deed) (state : σ) :
    ∃ status reply deeds after, Orderly factory arguments stdin state status deeds ∧
      (serve factory.recorded now arguments stdin).run (log, state) =
        (leaves status reply, log ++ deeds, after) := by
  -- The cases are the three places at which a program can stop.
  cases parsed : parseArguments arguments with
  | error fault =>
    refine ⟨1, .failure fault.message, [], state, ⟨.inr rfl, ?_, fun _ _ => rfl, ?_⟩, ?_⟩
    · simp [parsed]
    · intro args accepted
      cases parsed.symm.trans accepted
    · rw [serve_refused parsed, List.append_nil, leaves_failure]
  | ok args =>
    have only {other : PluginArgs} (accepted : parseArguments arguments = .ok other) :
        args = other :=
      Except.ok.inj (parsed.symm.trans accepted)
    have unrefused (fault : ArgumentFault) (refuses : parseArguments arguments = .error fault)
        (deeds : List Deed) : deeds = [] := by cases parsed.symm.trans refuses
    have asked := factory.recorded_outcome args.initOptions log state
    rcases made : (factory args.initOptions).outcome state with ⟨fault | signer, after⟩
    · rw [made] at asked
      refine ⟨1, .failure fault.text, [.make args.initOptions], after,
        ⟨.inr rfl, ?_, fun fault refuses => unrefused fault refuses _, ?_⟩, ?_⟩
      · simp [parsed, made]
      · intro other accepted
        obtain rfl := only accepted
        exact ⟨[], rfl, by simp, by simp, by simp⟩
      · rw [leaves_unmade]
        exact serve_unmade parsed asked
    · rw [made] at asked
      obtain ⟨result, calls, after', answers, single, own⟩ :=
        answer_watched signer now stdin args.methodArgs (log ++ [.make args.initOptions]) after
      have orderly : Orderly factory arguments stdin state 0
          (.make args.initOptions :: calls.map .call) := by
        refine ⟨.inl rfl, ?_, fun fault refuses => unrefused fault refuses _, ?_⟩
        · simp [parsed, made]
        · intro other accepted
          obtain rfl := only accepted
          exact ⟨calls, rfl, single, own, fun _ => rfl⟩
      rw [List.append_assoc, List.singleton_append] at answers
      refine ⟨0, telling (result.bind (·.reply args.methodArgs.method)), _, after', orderly, ?_⟩
      have served : (serve factory.recorded now arguments stdin).run (log, state) = _ :=
        serve_made parsed asked
      rw [dispatch_outcome, perform_outcome, answers, leaves_written] at served
      exact served

end Serve

/-- How a plugin program comes from its arguments to its exit status. What its arguments come
to is decided in the order of the verdicts, and a binding without a version counts as one for
the version of the protocol. Then the program is served in an orderly way, and it writes one
document and nothing else, which can be read as its reply; only a reply with a text that
cannot be written is not, and then the program ends without a status of its own. -/
theorem serve_orderly {σ κ : Type} [PemKey κ] (factory : Factory σ κ) (now : Instant)
    (arguments : List String) (stdin : Bytes) (log : List Deed) (state : σ) :
    (∀ verdict, Verdict arguments verdict ↔
      (parseArguments arguments).mapError ArgumentFault.isVersionFault = verdict) ∧
    (∀ request args, PluginArgs.form.decode (Bytes.ofText request) = .ok args →
      ∃ members binding, Json.parse? (Bytes.ofText request) = some (.obj members) ∧
        PluginArgs.bindingTree? members = some (.obj binding) ∧
        match counted? [] InitOptions.versionMember binding with
        | some version => version = .str args.initOptions.protocolVersion
        | none => args.initOptions.protocolVersion = "v1") ∧
    ∃ (status : Nat) (reply : PluginResp CodeText) (deeds : List Deed) (after : σ),
      Orderly factory arguments stdin state status deeds ∧
      match reply.written with
      | .error fault =>
        (serve factory.recorded now arguments stdin).run (log, state) =
          (.error fault, log ++ deeds, after) ∧
        ∀ output, (serveOnto factory.recorded now arguments stdin output).run (log, state) =
          ((output, .error fault), log ++ deeds, after)
      | .ok document =>
        (serve factory.recorded now arguments stdin).run (log, state) =
          (.ok ⟨status, PluginResp.form.encode document⟩, log ++ deeds, after) ∧
        (∀ output, (serveOnto factory.recorded now arguments stdin output).run (log, state) =
          ((output ++ Bytes.ofText (PluginResp.form.encode document), .ok status),
            log ++ deeds, after)) ∧
        PluginResp.form.decode (Bytes.ofText (PluginResp.form.encode document)) = .ok document ∧
        document.ofWritten = reply := by
  refine ⟨fun verdict => verdict_iff, ?_, ?_⟩
  · intro request args decoded
    obtain ⟨tree, parsed, read⟩ := Form.decode_eq_ok.mp decoded
    obtain ⟨members, binding, rfl, counts, reads⟩ := PluginArgs.binding_read read
    obtain ⟨inner, rfl, version⟩ := InitOptions.version_read reads
    exact ⟨members, inner, parsed, counts, version⟩
  · obtain ⟨status, reply, deeds, after, orderly, ran⟩ :=
      serve_recorded factory now arguments stdin log state
    refine ⟨status, reply, deeds, after, orderly, ?_⟩
    have onto (output : Bytes) :=
      serveOnto_run factory.recorded now arguments stdin output (log, state)
    rw [ran] at onto
    cases writes : reply.written with
    | error fault =>
      rw [leaves, writes] at ran onto
      exact ⟨ran, onto⟩
    | ok document =>
      rw [leaves, writes] at ran onto
      exact ⟨ran, onto, PluginResp.decode_encode document, PluginResp.written_eq_ok.mp writes⟩

/-- A program does not always leave a document: there is none for a failing factory whose
failure has a text with a surrogate. -/
theorem serve_orderly_unwritten :
    let text : CodeText := [.surrogate 0]
    let factory : Factory Unit := fun _ => Action.fail ⟨"ValueError", text⟩
    let arguments :=
      "plugin" :: (Invocation.command "plugin" [] {} (.defaultAlgorithm {})).arguments
    let fault : Text.Unwritable := ⟨text, 0, by decide⟩
    parseArguments arguments = .ok ⟨{}, .defaultAlgorithm {}⟩ ∧
      (serve factory.recorded 0 arguments []).run ([], ()) = (.error fault, [.make {}], ()) ∧
      (serveOnto factory.recorded 0 arguments [] []).run ([], ()) =
        (([], .error fault), [.make {}], ()) := by
  intro text factory arguments fault
  have parsed : parseArguments arguments = .ok ⟨{}, .defaultAlgorithm {}⟩ :=
    parseArguments_command "plugin" rfl (MethodArgs.inMinutes_defaultAlgorithm {})
  clear_value arguments
  have fails : (factory.recorded {}).outcome ([], ()) =
      (.error ⟨"ValueError", text⟩, [.make {}], ()) := rfl
  have left : (serve factory.recorded 0 arguments []).run ([], ()) =
      (.error fault, [.make {}], ()) :=
    serve_unmade parsed fails
  refine ⟨parsed, left, ?_⟩
  rw [serveOnto_run, left]

end Plugin

end SignerPlugin
