import SignerPlugin.Invocation
import SignerPlugin.Proofs.WorkUnderContext
import SignerPlugin.Proofs.WrittenTexts

/-! The verdict on a call. A context that is done outweighs whatever became of the command;
only under a live one does the ending of the command count. -/

namespace SignerPlugin

open Message

theorem CallContext.reason_of_err? {ctx : CallContext} {now : Instant} {reason : ContextError}
    (done : ctx.err? now = some reason) :
    reason = if ctx.cancelled then .canceled else .deadlineExceeded := by
  unfold err? at done
  by_cases cancelled : ctx.cancelled
  · simp only [cancelled, if_true, Option.some.injEq] at done ⊢
    exact done.symm
  · simp only [cancelled, Bool.false_eq_true, if_false] at done ⊢
    split at done
    · split at done
      · exact (Option.some.inj done).symm
      · cases done
    · cases done

namespace Command

variable {τ : Type}

/-- The launch that also keeps a record of its commands. -/
def recording (launch : Launch τ) : Launch (List Command × τ) :=
  fun limit command (log, world) =>
    let (work, after) := launch limit command world
    (work, log ++ [command], after)

/-- The launch whose runs end in another way. -/
def endingWith (launch : Launch τ) (ending : Ending) : Launch τ :=
  fun limit command => do
    return { ← launch limit command with outcome := ending }

private theorem run_endingWith (launch : Launch τ) (ending : Ending) (limit : Option Nat)
    (command : Command) (world : τ) :
    (endingWith launch ending limit command).run world =
      ({ ((launch limit command).run world).1 with outcome := ending },
        ((launch limit command).run world).2) :=
  rfl

end Command

namespace Invocation

open Command

variable {τ θ : Type} [Text.Writable θ]

/-- What a command that has ended under a live context means. A positive exit status counts as
success. -/
def verdict (plugin : String) (method : Method) : Ending → Except InvocationError PluginResp
  | .returned stdout => parseReply plugin method stdout
  | .exited exit =>
    if 0 < exit.status then parseReply plugin method (exit.output.getD [])
    else .error (.execution plugin exit.message)
  | .failed reason => .error (.execution plugin reason)

theorem conclude_live (plugin : String) (method : Method) (ending : Ending) :
    conclude plugin method none ending = verdict plugin method ending := by
  cases ending with
  | returned stdout => rfl
  | exited exit =>
    by_cases positive : 0 < exit.status
    · simp [conclude, output, verdict, positive, bind, Except.bind]
    · simp [conclude, output, verdict, positive, bind, Except.bind]
  | failed reason => rfl

variable (launch : Launch τ) (plugin : String) {ctx : CallContext} {now : Instant} (stdin : Bytes)
  {init : InitOptions θ} {args : MethodArgs θ}

theorem invoke_done (init : InitOptions θ) (args : MethodArgs θ) {reason : ContextError}
    (done : ctx.err? now = some reason) (world : τ) :
    (invoke launch plugin ctx now stdin init args).run world =
      (⟨.error (.context reason), ctx, now⟩, world) := by
  simp only [invoke, done]
  rfl

theorem invoke_unwritable {fault : Text.Unwritable} (live : ctx.err? now = none)
    (refused : PluginArgs.written ⟨init, args⟩ = .error fault) (world : τ) :
    (invoke launch plugin ctx now stdin init args).run world =
      (⟨.error (.unwritable fault), ctx, now⟩, world) := by
  simp only [invoke, live, refused]
  rfl

theorem invoke_live {request : PluginArgs} (live : ctx.err? now = none)
    (writes : PluginArgs.written ⟨init, args⟩ = .ok request) (world : τ) :
    let launched := (launch ((ctx.remaining? now).map Int.toNat)
      (command plugin stdin request.initOptions request.methodArgs)).run world
    ∃ elapsed, launched.1.StopsAt ctx now elapsed ∧
      (invoke launch plugin ctx now stdin init args).run world =
        (⟨match launched.1.doneAfter ctx now elapsed with
            | some reason => .error (.context reason)
            | none => verdict plugin args.method launched.1.outcome,
          launched.1.contextAfter ctx elapsed, now + elapsed⟩, launched.2) := by
  cases run : (launch ((ctx.remaining? now).map Int.toNat)
      (command plugin stdin request.initOptions request.methodArgs)).run world with
  | mk work world' =>
    obtain ⟨elapsed, stops, after, outcome⟩ := CallContext.perform_stops work live
    refine ⟨elapsed, stops, ?_⟩
    simp only [invoke, live, writes, StateT.run_bind, run]
    rcases outcome with ⟨ended, _⟩ | ⟨reason, stopped, done⟩
    · simp only [bind, StateT.run_pure, after, ended, CallContext.Work.doneAfter]
      cases (work.contextAfter ctx elapsed).err? (now + elapsed) with
      | some reason => rfl
      | none =>
        simp only [conclude_live]
        rfl
    · simp only [bind, StateT.run_pure, after, stopped, done]
      rfl

/-- Under a context that outlives it, a process is judged by how it has ended. -/
theorem invoke_ended {launch : Launch τ} {plugin : String} {stdin : Bytes} {lasts : Nat}
    {request : PluginArgs} {world after : τ} {ending : Ending}
    (live : ctx.err? (now + lasts) = none)
    (writes : PluginArgs.written ⟨init, args⟩ = .ok request)
    (launched : ∀ limit,
    (launch limit (command plugin stdin request.initOptions request.methodArgs)).run
      world = ({ lasts, outcome := ending }, after)) :
    (invoke launch plugin ctx now stdin init args).run world =
      (⟨verdict plugin args.method ending, ctx, now + lasts⟩, after) := by
  have start : ctx.err? now = none :=
    CallContext.err?_earlier (Int.le_add_of_nonneg_right (Int.natCast_nonneg lasts)) live
  obtain ⟨elapsed, stops, same⟩ := invoke_live launch plugin stdin start writes world
  rw [launched] at stops same
  have untouched (elapsed : Nat) :
      ({ lasts, outcome := ending } : CallContext.Work Ending).contextAfter ctx elapsed = ctx := rfl
  have running : elapsed ≤ lasts := stops.inTime
  have quiet : ({ lasts, outcome := ending } : CallContext.Work Ending).doneAfter ctx now
      elapsed = none :=
    CallContext.err?_earlier (Int.add_le_add_left (Int.ofNat_le.mpr running) now) live
  have ended : elapsed = lasts := stops.cause.resolve_right (by simp [quiet])
  rw [same, quiet, untouched, ended]

/-- The precedence of what can go wrong with a call. A context that is done at the start
refuses it before any process is made, and so does a text in the request that cannot be
written. Otherwise there is exactly one process, which is given the request, and at the first
moment at which it has ended or the context is done, a context that is done decides; under a
live one the output is read, whether the exit status is zero or positive, and any other ending
is an error of execution. -/
theorem invoke_precedence (launch : Launch τ) (plugin : String) (ctx : CallContext) (now : Instant)
    (stdin : Bytes) (init : InitOptions θ) (args : MethodArgs θ) (log : List Command) (world : τ) :
    let call := (invoke (recording launch) plugin ctx now stdin init args).run (log, world)
    ((ctx.err? now).isSome → call.2 = (log, world) ∧
      call.1.result = .error (.context (if ctx.cancelled then .canceled else .deadlineExceeded))) ∧
    (ctx.err? now = none → ∀ fault, PluginArgs.written ⟨init, args⟩ = .error fault →
      call.2 = (log, world) ∧ call.1.result = .error (.unwritable fault)) ∧
    (ctx.err? now = none → ∀ request, PluginArgs.written ⟨init, args⟩ = .ok request →
      let command := command plugin stdin request.initOptions request.methodArgs
      let launched := (launch ((ctx.remaining? now).map Int.toNat) command).run world
      request.ofWritten = ⟨init, args⟩ ∧ call.2 = (log ++ [command], launched.2) ∧
      ∃ elapsed, launched.1.StopsAt ctx now elapsed ∧
        let after := launched.1.contextAfter ctx elapsed
        ((after.err? (now + elapsed)).isSome → call.1.result =
          .error (.context (if after.cancelled then .canceled else .deadlineExceeded))) ∧
        (after.err? (now + elapsed) = none →
          call.1.result = verdict plugin args.method launched.1.outcome)) ∧
    ∀ words status stdout, 0 < status →
      invoke (endingWith launch (.exited ⟨words, status, some stdout⟩)) plugin ctx now
        stdin init args =
        invoke (endingWith launch (.returned stdout)) plugin ctx now stdin init args := by
  intro call
  refine ⟨?_, ?_, ?_, ?_⟩
  · intro done
    obtain ⟨reason, done⟩ := Option.isSome_iff_exists.mp done
    have same := invoke_done (recording launch) plugin stdin init args done (log, world)
    refine ⟨congrArg Prod.snd same, ?_⟩
    rw [← CallContext.reason_of_err? done]
    exact congrArg (·.1.result) same
  · intro live fault refused
    have same := invoke_unwritable (recording launch) plugin stdin live refused (log, world)
    exact ⟨congrArg Prod.snd same, congrArg (·.1.result) same⟩
  · intro live request writes command launched
    obtain ⟨elapsed, stops, same⟩ :=
      invoke_live (recording launch) plugin stdin live writes (log, world)
    have result : call.1.result = match launched.1.doneAfter ctx now elapsed with
        | some reason => .error (.context reason)
        | none => verdict plugin args.method launched.1.outcome := congrArg (·.1.result) same
    refine ⟨PluginArgs.written_eq_ok.mp writes, congrArg Prod.snd same, elapsed, stops, ?_, ?_⟩
    · intro done
      obtain ⟨reason, done⟩ := Option.isSome_iff_exists.mp done
      rw [result, ← CallContext.reason_of_err? done, CallContext.Work.doneAfter, done]
    · intro live
      rw [result, CallContext.Work.doneAfter, live]
  · intro words status stdout positive
    funext world
    cases done : ctx.err? now with
    | some reason =>
      exact (invoke_done _ plugin stdin init args done world).trans
        (invoke_done _ plugin stdin init args done world).symm
    | none => cases writes : PluginArgs.written ⟨init, args⟩ with
      | error fault =>
        exact (invoke_unwritable _ plugin stdin done writes world).trans
          (invoke_unwritable _ plugin stdin done writes world).symm
      | ok request =>
        obtain ⟨elapsed, stops, same⟩ := invoke_live
          (endingWith launch (.exited ⟨words, status, some stdout⟩)) plugin stdin done writes world
        obtain ⟨elapsed', stops', same'⟩ := invoke_live
          (endingWith launch (.returned stdout)) plugin stdin done writes world
        obtain rfl : elapsed = elapsed' := (stops.withOutcome (.returned stdout)).unique stops'
        have means : verdict plugin args.method (.exited ⟨words, status, some stdout⟩) =
            verdict plugin args.method (.returned stdout) := if_pos positive
        refine (same.trans ?_).trans same'.symm
        simp only [run_endingWith, means]
        rfl

theorem invoke_precedence_failed :
    let launch : Launch Unit :=
      fun _ _ => return { lasts := 5, outcome := .failed "no such program" }
    let init : InitOptions := {}
    let call (ctx : CallContext) :=
      (invoke (recording launch) "plugin" ctx 0 [] init (.defaultAlgorithm {})).run ([], ())
    (call CallContext.background.cancel).1.result = .error (.context .canceled) ∧
      (call .background).1.result = .error (.execution "plugin" "no such program") ∧
      invoke (endingWith launch (.exited ⟨[], 3, some [0]⟩)) "plugin" .background 0 [] init
        (.defaultAlgorithm {}) =
        invoke (endingWith launch (.returned [0])) "plugin" .background 0 [] init
          (.defaultAlgorithm {}) := by
  intro launch init call
  obtain ⟨refuses, -, -, -⟩ :=
    invoke_precedence launch "plugin" CallContext.background.cancel 0 [] init
      (.defaultAlgorithm {}) [] ()
  obtain ⟨-, -, launches, same⟩ :=
    invoke_precedence launch "plugin" .background 0 [] init (.defaultAlgorithm {}) [] ()
  obtain ⟨-, -, elapsed, -, -, ends⟩ := launches rfl _ (PluginArgs.written_string _)
  exact ⟨(refuses rfl).2, ends rfl, same [] 3 [0] (by decide)⟩

/-- A live context does not always bring about a process: there is none for a key whose name
holds a surrogate. -/
theorem invoke_unwritable_key :
    let launch : Launch Unit := fun _ _ => return { outcome := .returned [] }
    let key : Text.CodeText := [.surrogate 0]
    let init : InitOptions Text.CodeText := { protocolVersion := "v1", keyResourceId := key }
    let call := (invoke (recording launch) "sigstore-kms-test" .background 0 [] init
      (.defaultAlgorithm {})).run ([], ())
    CallContext.background.err? 0 = none ∧ call.2 = ([], ()) ∧
      call.1.result = .error (.unwritable ⟨key, 0, by decide⟩) := by
  intro launch key init call
  have unwritten : PluginArgs.written ⟨init, .defaultAlgorithm {}⟩ =
      .error ⟨key, 0, by decide⟩ := rfl
  have refused : call = _ :=
    invoke_unwritable (recording launch) "sigstore-kms-test" [] rfl unwritten ([], ())
  exact ⟨rfl, congrArg Prod.snd refused, congrArg (·.1.result) refused⟩

end Invocation
end SignerPlugin
