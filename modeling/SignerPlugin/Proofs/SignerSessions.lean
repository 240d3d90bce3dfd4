import SignerPlugin.CryptoSigner.Session
import SignerPlugin.Proofs.CallSessions

/-! A plain signer over any steps. Asking for the key never fails: what would fail is put on a
list, once and in order. Signing fails as the client does. Once the context is cancelled no
process is launched any more. -/

namespace SignerPlugin

open Command
open Text (Writable)

variable {τ α κ θ : Type}

namespace Client

variable [PemKey κ] [Writable θ] {ctx : CallContext} {now : Instant} {reason : ContextError}

/-- A call under a context that is done changes nothing. -/
theorem call_done (client : Client θ) (launch : Launch τ) (stdin : Bytes)
    (args : Message.MethodArgs θ) (read : Message.PluginResp → Except (ClientError θ) α)
    (done : ctx.err? now = some reason) (world : τ) :
    (client.call launch ctx now stdin args read).run world =
      (⟨.error (.invocation (.context reason)), ctx, now⟩, world) := by
  simp only [call, StateT.run_bind, Invocation.invoke_done _ _ _ _ _ done]
  rfl

theorem publicKey_done (client : Client θ) (launch : Launch τ)
    (done : ctx.err? now = some reason) (world : τ) :
    (client.publicKey (κ := κ) launch now [.context ctx]).run world =
      (⟨.error (.invocation (.context reason)), ctx, now⟩, world) :=
  client.call_done launch _ _ _ done world

private theorem signMessage_done (client : Client θ) (launch : Launch τ) (message digest : Bytes)
    (hash : HashFunc) (done : ctx.err? now = some reason) (world : τ) :
    (client.signMessage launch now message [.context ctx, .digest digest, .hashFunc hash]).run
      world = (⟨.error (.invocation (.context reason)), ctx, now⟩, world) :=
  client.call_done launch _ _ _ done world

end Client

namespace CryptoSigner

private theorem make_eq_ok {ctx : CallContext} {now : Instant} {hash : HashFunc}
    {signer : CryptoSigner} :
    make ctx now hash = .ok signer ↔ ctx.err? now = none ∧ signer = ⟨ctx, hash⟩ := by
  unfold make
  cases ctx.err? now with
  | some reason => simp
  | none => simp [eq_comm]

private theorem make_eq_error {ctx : CallContext} {now : Instant} {hash : HashFunc}
    {reason : ContextError} :
    make ctx now hash = .error reason ↔ ctx.err? now = some reason := by
  unfold make
  cases ctx.err? now <;> simp

/-- The hash function to sign with: the one that is chosen, or else the one by default. -/
def resolve (default : HashFunc) : Option HashFunc.Selector → Except HashFunc.Fault HashFunc
  | some selector => HashFunc.select selector
  | none => .ok default

private theorem digestOptions_eq (signer : CryptoSigner) (digest : Bytes)
    (chosen : Option HashFunc.Selector) :
    signer.digestOptions (θ := θ) digest chosen =
      (resolve signer.hash chosen).map fun hash =>
        [.context signer.context, .digest digest, .hashFunc hash] := by
  cases chosen with
  | none => rfl
  | some selector =>
    simp only [digestOptions, resolve]
    cases HashFunc.select selector <;> rfl

namespace Session

/-- The session with one more error, if somebody listens. -/
def tell (session : Session θ) (error : ClientError θ) : Session θ :=
  { session with errors := if session.listens then session.errors ++ [error] else session.errors }

/-- The session after the key was asked for. -/
def told (session : Session θ) (outcome : Invocation.Outcome (Except (ClientError θ) κ)) :
    Session θ :=
  match outcome.result with
  | .ok _ => session.leave outcome
  | .error error => (session.leave outcome).tell error

private theorem told_listens (session : Session θ)
    (outcome : Invocation.Outcome (Except (ClientError θ) κ)) :
    (session.told outcome).listens = session.listens := by
  rw [told]
  cases outcome.result <;> rfl

private theorem told_hash (session : Session θ)
    (outcome : Invocation.Outcome (Except (ClientError θ) κ)) :
    (session.told outcome).signer.hash = session.signer.hash := by
  rw [told]
  cases outcome.result <;> rfl

/-- What no step changes, and that nothing takes back that a context is cancelled. -/
structure Keeps (before after : Session θ) : Prop where
  listens : after.listens = before.listens
  hash : after.signer.hash = before.signer.hash
  cancelled : before.signer.context.cancelled = true → after.signer.context.cancelled = true

theorem Keeps.trans {first second third : Session θ} (early : Keeps first second)
    (late : Keeps second third) :
    Keeps first third :=
  ⟨late.listens.trans early.listens, late.hash.trans early.hash, late.cancelled ∘ early.cancelled⟩

variable [PemKey κ] [Writable θ] (client : Client θ) (launch : Launch τ) {session : Session θ}

/-! ### One step -/

/-- What asking for the key comes to. -/
def asking (session : Session θ) : StateM τ (Invocation.Outcome (Except (ClientError θ) κ)) :=
  client.publicKey launch session.now [.context session.signer.context]

/-- What signing a digest with a hash function comes to. -/
def signing (session : Session θ) (digest : Bytes) (hash : HashFunc) :
    StateM τ (Invocation.Outcome (Except (ClientError θ) Bytes)) :=
  client.signMessage launch session.now [] [.context session.signer.context, .digest digest,
    .hashFunc hash]

theorem step_publicKey (world : τ) :
    (session.step (κ := κ) client launch .publicKey).run world =
      let asked := (session.asking (κ := κ) client launch).run world
      ((.key asked.1.result.toOption, session.told asked.1), asked.2) := by
  have stepped : (session.step (κ := κ) client launch .publicKey).run world =
      let asked := (session.asking (κ := κ) client launch).run world
      let seen := observe session.errors asked.1.result
      ((.key seen.1, { session.leave asked.1 with
        errors := if session.listens then seen.2 else session.errors }), asked.2) := rfl
  rw [stepped]
  simp only [told]
  cases ((session.asking (κ := κ) client launch).run world).1.result with
  | ok key =>
    simp only [observe, ite_self]
    rfl
  | error error => rfl

theorem step_sign (digest : Bytes) (chosen : Option HashFunc.Selector) (world : τ) :
    (session.step (κ := κ) client launch (.sign digest chosen)).run world =
      match resolve session.signer.hash chosen with
      | .error fault => ((.signature (.error (.refused fault)), session), world)
      | .ok hash =>
        let signed := (session.signing client launch digest hash).run world
        ((.signature (signed.1.result.mapError .failed), session.leave signed.1), signed.2) := by
  rw [step, digestOptions_eq]
  cases resolve session.signer.hash chosen <;> rfl

theorem publicKey_done {reason : ContextError}
    (done : session.signer.context.err? session.now = some reason) (world : τ) :
    (session.step (κ := κ) client launch .publicKey).run world =
      ((.key none, session.tell (.invocation (.context reason))), world) := by
  rw [step_publicKey, asking, client.publicKey_done launch done]
  rfl

theorem sign_done {reason : ContextError}
    (done : session.signer.context.err? session.now = some reason) (digest : Bytes)
    (chosen : Option HashFunc.Selector) (world : τ) :
    (session.step (κ := κ) client launch (.sign digest chosen)).run world =
      ((.signature (match resolve session.signer.hash chosen with
        | .error fault => .error (.refused fault)
        | .ok _ => .error (.failed (.invocation (.context reason)))), session), world) := by
  rw [step_sign]
  cases resolve session.signer.hash chosen with
  | error fault => rfl
  | ok hash =>
    simp only [signing, client.signMessage_done launch [] digest hash done]
    rfl

/-! ### Any steps -/

/-- What a step makes of a session and the world around it. -/
def next (state : Session θ × τ) (step : Step) : Session θ × τ :=
  let ran := (state.1.step (κ := κ) client launch step).run state.2
  (ran.1.2, ran.2)

def after (state : Session θ × τ) (steps : List Step) : Session θ × τ :=
  steps.foldl (next (κ := κ) client launch) state

/-- The error that a step spares its caller, if it does. -/
def spared (state : Session θ × τ) : Step → List (ClientError θ)
  | .publicKey => match ((state.1.asking (κ := κ) client launch).run state.2).1.result with
    | .ok _ => []
    | .error error => [error]
  | _ => []

/-- The errors that steps spare their callers, one after the other. -/
def sparedBy : Session θ × τ → List Step → List (ClientError θ)
  | _, [] => []
  | state, step :: rest =>
    spared (κ := κ) client launch state step ++
    sparedBy (next (κ := κ) client launch state step) rest

theorem err?_of_cancelled {ctx : CallContext} (cancelled : ctx.cancelled = true) (now : Instant) :
    ctx.err? now = some .canceled := if_pos cancelled

theorem next_keeps (state : Session θ × τ) (step : Step) :
    Keeps state.1 (next (κ := κ) client launch state step).1 := by
  obtain ⟨session, world⟩ := state
  cases step with
  | publicKey =>
    refine ⟨?_, ?_, fun cancelled => ?_⟩
    · rw [next, step_publicKey]
      exact told_listens _ _
    · rw [next, step_publicKey]
      exact told_hash _ _
    · rw [next, publicKey_done client launch (err?_of_cancelled cancelled _)]
      exact cancelled
  | sign digest chosen =>
    refine ⟨?_, ?_, fun cancelled => ?_⟩
    · rw [next, step_sign]
      cases resolve session.signer.hash chosen <;> rfl
    · rw [next, step_sign]
      cases resolve session.signer.hash chosen <;> rfl
    · rw [next, sign_done client launch (err?_of_cancelled cancelled _)]
      exact cancelled
  | cancel => exact ⟨rfl, rfl, fun _ => rfl⟩
  | pass micros => exact ⟨rfl, rfl, id⟩

theorem after_keeps (state : Session θ × τ) (steps : List Step) :
    Keeps state.1 (after (κ := κ) client launch state steps).1 := by
  induction steps generalizing state with
  | nil => exact ⟨rfl, rfl, id⟩
  | cons step rest ih => exact (next_keeps client launch state step).trans (ih _)

private theorem next_errors (state : Session θ × τ) (step : Step) :
    (next (κ := κ) client launch state step).1.errors =
      state.1.errors ++ if state.1.listens then spared (κ := κ) client launch state step
        else [] := by
  obtain ⟨session, world⟩ := state
  have nothing : session.errors = session.errors ++ if session.listens then [] else [] := by simp
  cases step with
  | publicKey =>
    simp only [next, step_publicKey, spared, told]
    cases ((session.asking (κ := κ) client launch).run world).1.result with
    | ok key => exact nothing
    | error error => cases listens : session.listens <;> simp [tell, leave, listens]
  | sign digest chosen =>
    simp only [next, step_sign, spared]
    cases resolve session.signer.hash chosen <;> exact nothing
  | cancel => exact nothing
  | pass micros => exact nothing

private theorem after_errors (state : Session θ × τ) (steps : List Step) :
    (after (κ := κ) client launch state steps).1.errors =
      state.1.errors ++ if state.1.listens then sparedBy (κ := κ) client launch state steps
        else [] := by
  induction steps generalizing state with
  | nil => simp [after, sparedBy]
  | cons step rest ih =>
    have later := ih (next (κ := κ) client launch state step)
    rw [next_errors, (next_keeps client launch state step).listens] at later
    rw [after, List.foldl_cons]
    refine later.trans ?_
    cases state.1.listens <;> simp [sparedBy]

private theorem cancelled_of_mem (state : Session θ × τ) {steps : List Step}
    (cancels : .cancel ∈ steps) :
    (after (κ := κ) client launch state steps).1.signer.context.cancelled = true := by
  obtain ⟨earlier, later, rfl⟩ := List.append_of_mem cancels
  rw [after, List.foldl_append, List.foldl_cons]
  exact (after_keeps client launch _ later).cancelled rfl

/-! ### Processes -/

theorem asking_builds (session : Session θ) (log : List Command) (world : τ) :
    ∃ commands, ((session.asking (κ := κ) client (recording launch)).run (log, world)).2.1 =
      log ++ commands ∧
      client.Builds session.now (some (.publicKey [.context session.signer.context])) commands :=
  client.ask_builds (κ := κ) launch session.now
    (.publicKey [.context session.signer.context]) log world

private theorem signing_builds (session : Session θ) (digest : Bytes) (hash : HashFunc)
    (log : List Command) (world : τ) :
    ∃ commands, ((session.signing client (recording launch) digest hash).run (log, world)).2.1 =
      log ++ commands ∧ client.Builds session.now
        (some (.signMessage [] [.context session.signer.context, .digest digest,
          .hashFunc hash])) commands :=
  client.ask_builds (κ := PublicKey) launch session.now
    (.signMessage [] [.context session.signer.context, .digest digest, .hashFunc hash])
    log world

/-! ### The law -/

/-- A plain signer of a client over any steps, whatever its calls come to. It is made without
a process, unless its context is done. The errors that are told are those of the calls for the
key, each once and in order. Asking for the key answers with the key that the client finds or
else tells the error; signing does what the client does, and refuses hash functions that are
none. Each has the process that the client's call has. Once the context was cancelled the
world is left alone: a call for the key tells that, and signing fails with it if the hash
function is not refused. -/
theorem session_faithful (client : Client θ) (launch : Launch τ) (ctx : CallContext)
    (now : Instant) :
    (∀ streams world, (client.act (κ := κ) launch now (.cryptoSigner ctx)).run (streams, world) =
      (.wrapped (make ctx now client.init.hashFunc), streams, world)) ∧
    (∀ reason, make ctx now client.init.hashFunc = .error reason ↔ ctx.err? now = some reason) ∧
    ∀ signer, make ctx now client.init.hashFunc = .ok signer → ∀ listens log world steps,
      let launch := recording launch
      let start : Session θ := ⟨signer, listens, [], now⟩
      let session := (after (κ := κ) client launch (start, log, world) steps).1
      let around := (after (κ := κ) client launch (start, log, world) steps).2
      let asked :=
        (client.publicKey (κ := κ) launch session.now [.context session.signer.context]).run around
      session.errors = (if listens then sparedBy (κ := κ) client launch
        (start, log, world) steps else []) ∧
      (session.step (κ := κ) client launch .publicKey).run around =
        ((.key asked.1.result.toOption, session.told asked.1), asked.2) ∧
      (∃ commands, asked.2.1 = around.1 ++ commands ∧
        client.Builds session.now (some (.publicKey [.context session.signer.context])) commands) ∧
      (∀ digest chosen fault, resolve client.init.hashFunc chosen = .error fault →
        (session.step (κ := κ) client launch (.sign digest chosen)).run around =
          ((.signature (.error (.refused fault)), session), around)) ∧
      (∀ digest chosen hash, resolve client.init.hashFunc chosen = .ok hash →
        let options : List (SignerOption θ) :=
          [.context session.signer.context, .digest digest, .hashFunc hash]
        let signed := (client.signMessage launch session.now [] options).run around
        (session.step (κ := κ) client launch (.sign digest chosen)).run around =
          ((.signature (signed.1.result.mapError .failed), session.leave signed.1), signed.2) ∧
        ∃ commands, signed.2.1 = around.1 ++ commands ∧
          client.Builds session.now (some (.signMessage [] options)) commands) ∧
      (.cancel ∈ steps →
        (session.step (κ := κ) client launch .publicKey).run around =
          ((.key none, session.tell (.invocation (.context .canceled))), around) ∧
        ∀ digest chosen hash, resolve client.init.hashFunc chosen = .ok hash →
          (session.step (κ := κ) client launch (.sign digest chosen)).run around =
            ((.signature (.error (.failed (.invocation (.context .canceled)))), session),
              around)) := by
  refine ⟨fun _ _ => rfl, fun _ => make_eq_error, ?_⟩
  intro signer made listens log world steps launch start session around asked
  obtain ⟨-, rfl⟩ := make_eq_ok.mp made
  have keeps : Keeps start session := after_keeps client launch (start, log, world) steps
  refine ⟨?_, ?_, ?_, ?_, ?_, ?_⟩
  · exact (after_errors client launch (start, log, world) steps).trans (List.nil_append _)
  · exact step_publicKey client launch around
  · exact asking_builds client _ session around.1 around.2
  · intro digest chosen fault refused
    rw [step_sign, keeps.hash, refused]
  · intro digest chosen hash resolved options signed
    refine ⟨?_, signing_builds client _ session digest hash around.1 around.2⟩
    rw [step_sign, keeps.hash, resolved]
    rfl
  · intro cancels
    have done : session.signer.context.err? session.now = some .canceled :=
      err?_of_cancelled (cancelled_of_mem client launch _ cancels) _
    refine ⟨publicKey_done client launch done around, ?_⟩
    intro digest chosen hash resolved
    rw [sign_done client launch done, keeps.hash, resolved]

theorem session_faithful_failing :
    let client : Client := ⟨"plugin", {}⟩
    let launch : Launch Unit := fun _ _ => return { outcome := .failed "no such program" }
    let signer : CryptoSigner := ⟨.background, .sha256⟩
    let steps : List Step := [.publicKey, .cancel, .publicKey, .sign [1] none]
    let state :=
      after (κ := PublicKey) client (recording launch) (⟨signer, true, [], 0⟩, [], ()) steps
    make .background 0 client.init.hashFunc = .ok signer ∧
      state.1.errors = [.invocation (.execution "plugin" "no such program"),
        .invocation (.context .canceled)] ∧
      (state.1.step (κ := PublicKey) client (recording launch) (.sign [1] none)).run state.2 =
        ((.signature (.error (.failed (.invocation (.context .canceled)))), state.1), state.2) := by
  intro client launch signer steps state
  obtain ⟨-, -, laws⟩ := session_faithful (κ := PublicKey) client launch .background 0
  have made : make .background 0 client.init.hashFunc = .ok signer := rfl
  obtain ⟨errors, -, -, -, -, canceled⟩ := laws signer made true [] () steps
  exact ⟨made, errors, (canceled (by simp [steps])).2 [1] none .sha256 rfl⟩

/-- A context that is cancelled is not what signing with a hash function that is none fails with. -/
theorem canceled_sign_refused :
    let client : Client := ⟨"sigstore-kms-test", {}⟩
    let launch : Launch Unit := fun _ _ => return { outcome := .returned [] }
    let state :=
      after (κ := PublicKey) client launch (⟨⟨.background, .sha256⟩, true, [], 0⟩, ()) [.cancel]
    let reply :=
      ((state.1.step (κ := PublicKey) client launch
      (.sign [100] (some (.algorithm "blake2b")))).run state.2).1.1
    state.1.signer.context.err? state.1.now = some .canceled ∧
      reply = .signature (.error (.refused (.unsupportedAlgorithm "blake2b"))) ∧
      reply ≠ .signature (.error (.failed (.invocation (.context .canceled)))) := by
  intro client launch state reply
  have refused : reply = .signature (.error (.refused (.unsupportedAlgorithm "blake2b"))) := rfl
  refine ⟨rfl, refused, ?_⟩
  rw [refused]
  nofun

end Session
end CryptoSigner
end SignerPlugin
