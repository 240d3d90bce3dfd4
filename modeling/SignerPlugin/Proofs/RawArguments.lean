import SignerPlugin.Proofs.ServedRequest

/-! A plugin program behind its command line. It has no options, so all words are handed on as
they stand and in their order, except that the first `--` is taken away. Arguments without
that word are served as they are. With it they never are: the program then looks at one
argument less, and can take three for the two that a request needs. -/

namespace SignerPlugin.Plugin

open Message CommandLine

section Words

private theorem readLetters_commandLine {letters : List Char} (any : letters ≠ []) :
    commandLine.readLetters letters = some { arguments := [String.ofList ('-' :: letters)] } := by
  simp [readLetters, commandLine, unknown, any]

/-- Every word is an argument as it stands, whether it looks like an option or not. -/
private theorem readWord_commandLine (word : String) :
    commandLine.readWord word = some { arguments := [word] } := by
  have noName (name : String) : commandLine.names.contains name = false := rfl
  rw [readWord, noName, if_neg Bool.false_ne_true]
  split
  · rfl
  · rfl
  · rename_i letters lone _ spelled
    rw [readLetters_commandLine lone, ← spelled, String.ofList_toList]
  · rfl

/-- No command line is refused, and its arguments are all its words but the first separator. -/
theorem read_commandLine (arguments : List String) :
    commandLine.read arguments = some { arguments := handedOn arguments } := by
  induction arguments with
  | nil => rfl
  | cons word rest ih =>
    by_cases separator : word = "--"
    · simp [CommandLine.read, handedOn, separator]
    · have kept : handedOn (word :: rest) = word :: handedOn rest :=
        List.erase_cons_tail (by simpa using separator)
      simp [CommandLine.read, separator, readWord_commandLine, ih, kept]

theorem length_handedOn {arguments : List String} (separated : "--" ∈ arguments) :
    (handedOn arguments).length + 1 = arguments.length := by
  have some : 0 < arguments.length := List.length_pos_of_mem separated
  have less := List.length_erase_of_mem separated
  rw [handedOn]
  omega

end Words

section Refusals

private theorem parseArguments_count {arguments : List String} (other : arguments.length ≠ 3) :
    parseArguments arguments = .error (.count arguments.length) := by
  unfold parseArguments
  split
  · exact absurd rfl other
  · rfl

private theorem length_of_count {arguments : List String} {found : Nat}
    (parsed : parseArguments arguments = .error (.count found)) : arguments.length ≠ 3 := by
  intro three
  obtain ⟨program, version, request, rfl⟩ := List.length_eq_three.mp three
  unfold parseArguments at parsed
  grind

/-- The number of arguments can be told from what is said about it. -/
theorem count_of_message {found other : Nat}
    (same : (ArgumentFault.count (found + 1)).message =
      (ArgumentFault.count (other + 1)).message) : found = other := by
  have number (n : Nat) : toString (((n + 1 : Nat) : Int) - 1) = n.repr := by
    rw [Int.natCast_add, Int.natCast_one, Int.add_sub_cancel]
    rfl
  unfold ArgumentFault.message at same
  have numbers := (String.append_right_inj _).mp ((String.append_left_inj _).mp same)
  rw [number, number] at numbers
  have digits := congrArg String.toList numbers
  rw [Nat.toList_repr, Nat.toList_repr] at digits
  rw [← Json.digitsValue_toDigits found, digits, Json.digitsValue_toDigits]

/-- Three arguments are never refused for their number. -/
theorem message_ne_count {arguments : List String} (three : arguments.length = 3)
    {fault : ArgumentFault} (parsed : parseArguments arguments = .error fault) (found : Nat) :
    fault.message ≠ (ArgumentFault.count found).message := by
  have leads {c : Char} {start : String} (rest : String) (first : start.toList.head? = some c) :
      (start ++ rest).toList.head? = some c := by
    rw [String.toList_append, List.head?_append, first]
    rfl
  have counted : (ArgumentFault.count found).message.toList.head? = some 'E' :=
    leads _ (leads _ (by decide))
  intro same
  rw [← same] at counted
  cases fault with
  | count _ => exact length_of_count parsed three
  | version _ =>
    exact absurd (counted.symm.trans (leads _ (leads _ (leads _ (by decide)))))
      (by decide : some 'E' ≠ some 'P')
  | request _ =>
    exact absurd (counted.symm.trans (leads _ (by decide))) (by decide : some 'E' ≠ some 'I')
  | bindingVersion _ =>
    exact absurd (counted.symm.trans (leads _ (by decide))) (by decide : some 'E' ≠ some 'P')

end Refusals

section Command

theorem refused_inj {message other : String} (same : refused message = refused other) :
    message = other := by
  have read := congrArg (fun served => PluginResp.form.decode (Bytes.ofText served.output)) same
  simp only [refused, PluginResp.decode_encode] at read
  exact Option.some.inj (congrArg PluginResp.errorMessage (Except.ok.inj read))

variable {σ κ : Type} [PemKey κ] {factory : Factory σ κ} {now : Instant} {arguments : List String}
  {stdin : Bytes} {log : List Deed} {state : σ}

theorem runCommand_eq (factory : Factory σ κ) (now : Instant) (program : String)
    (arguments : List String) (stdin : Bytes) :
    runCommand factory now program arguments stdin =
      serve factory now (program :: handedOn arguments) stdin := by
  rw [runCommand, read_commandLine]

theorem serve_counted (other : arguments.length ≠ 3) :
    (serve factory now arguments stdin).run state =
      (.ok (refused (ArgumentFault.count arguments.length).message), state) :=
  serve_refused (parseArguments_count other)

/-- What comes of three arguments is never what comes of any other number: they are refused
for another reason, or a signer is asked for. -/
theorem serve_ne_counted (three : arguments.length = 3) (found : Nat) :
    let served := (serve factory.recorded now arguments stdin).run (log, state)
    (served.1, served.2.1) ≠ (.ok (refused (ArgumentFault.count found).message), log) := by
  intro served same
  cases parsed : parseArguments arguments with
  | error fault =>
    have comes : served = _ := serve_refused parsed
    rw [comes] at same
    exact message_ne_count three parsed found (refused_inj (Except.ok.inj (congrArg Prod.fst same)))
  | ok args =>
    obtain ⟨status, reply, deeds, after, orderly, comes⟩ :=
      serve_recorded factory now arguments stdin log state
    obtain ⟨calls, rfl, -⟩ := orderly.accepted args parsed
    have logged : served.2.1 = log ++ .make args.initOptions :: calls.map .call :=
      congrArg (·.2.1) comes
    have kept := logged.symm.trans (congrArg Prod.snd same)
    simp at kept

/-- Arguments with a separator are never served as they are. -/
theorem runCommand_ne_serve (separated : "--" ∈ arguments) (program : String) :
    let served := (serve factory.recorded now (program :: arguments) stdin).run (log, state)
    let ran := (runCommand factory.recorded now program arguments stdin).run (log, state)
    (ran.1, ran.2.1) ≠ (served.1, served.2.1) := by
  intro served ran same
  have comes : ran = (serve factory.recorded now (program :: handedOn arguments) stdin).run
      (log, state) := by
    rw [← runCommand_eq]
  have less := length_handedOn separated
  by_cases two : arguments.length = 2
  · -- The two arguments are looked at where they stand, and only one of them behind the
    -- command line.
    have counted : ran = _ := comes.trans (serve_counted (by simp; omega))
    rw [counted] at same
    exact serve_ne_counted (by simp [two]) _ same.symm
  · have counted : served = _ := serve_counted (by simpa using two)
    rw [counted] at same
    by_cases three : arguments.length = 3
    · rw [comes] at same
      exact serve_ne_counted (by simp; omega) _ same
    · have lower : ran = _ := comes.trans (serve_counted (by simp; omega))
      rw [lower] at same
      have numbers := count_of_message (refused_inj (Except.ok.inj (congrArg Prod.fst same)))
      omega

end Command

/-- How a command line stands to its arguments. It is never refused as such, and what its
program serves are its words without the first separator. So without a separator the program
does for it what it does for the raw arguments: the same status and output, the same signer
made and called, the same state left. With one it never does. Any number of arguments but two
is refused with status 1, and nothing is made or called, unless they are three with a
separator: then the program serves the two others, and ends well if these are a request for
which a signer can be made, though it refuses the three when they are given to it directly. -/
theorem runCommand_forwards {σ κ : Type} [PemKey κ] (factory : Factory σ κ) (now : Instant)
    (program : String) (arguments : List String) (stdin : Bytes) (log : List Deed) (state : σ) :
    let kept := arguments.erase "--"
    let served := (serve factory.recorded now (program :: arguments) stdin).run (log, state)
    let ran := (runCommand factory.recorded now program arguments stdin).run (log, state)
    ran = (serve factory.recorded now (program :: kept) stdin).run (log, state) ∧
    ("--" ∉ arguments → ran = served) ∧
    ("--" ∈ arguments → (ran.1, ran.2.1) ≠ (served.1, served.2.1)) ∧
    (arguments.length ≠ 2 → ¬ (arguments.length = 3 ∧ "--" ∈ arguments) →
      ran = (.ok (refused (ArgumentFault.count (kept.length + 1)).message), log, state) ∧
        ran.1.map (·.status) = .ok 1) ∧
    (arguments.length = 3 → "--" ∈ arguments →
      served.1.map (·.status) = .ok 1 ∧ ∃ status reply, ran.1 = leaves status reply ∧
        (status = 0 ∨ status = 1) ∧
        (status = 0 ↔ ∃ args signer made, parseArguments (program :: kept) = .ok args ∧
          (factory args.initOptions).outcome state = (.ok signer, made))) := by
  intro kept served ran
  have comes : ran = (serve factory.recorded now (program :: kept) stdin).run (log, state) :=
    congrArg (fun action => action.run (log, state))
      (runCommand_eq factory.recorded now program arguments stdin)
  refine ⟨comes, fun plain => ?_, fun separated => runCommand_ne_serve separated program,
    fun other apart => ?_,
    fun three separated => ⟨?_, ?_⟩⟩
  · have same : kept = arguments := List.erase_of_not_mem plain
    rw [comes, same]
  · have number : kept.length ≠ 2 := by
      by_cases separated : "--" ∈ arguments
      · have less : kept.length + 1 = arguments.length := length_handedOn separated
        exact fun two => apart ⟨by omega, separated⟩
      · have same : kept = arguments := List.erase_of_not_mem separated
        rwa [same]
    have counted : ran = (.ok (refused (ArgumentFault.count (kept.length + 1)).message),
        log, state) :=
      comes.trans (serve_counted (by simpa using number))
    exact ⟨counted, by rw [counted]; rfl⟩
  · have counted : served = _ := serve_counted (by simp [three])
    rw [counted]
    rfl
  · obtain ⟨status, reply, deeds, after, orderly, ends⟩ :=
      serve_recorded factory now (program :: kept) stdin log state
    exact ⟨status, reply, congrArg Prod.fst (comes.trans ends), orderly.ends, orderly.well⟩

/-- A separator makes three arguments pass for a request: they are served, although as
arguments they are refused. -/
theorem runCommand_separated :
    let signer : Signer Unit :=
      { defaultAlgorithm := pure "alg1"
        supportedAlgorithms := pure ["alg1", "alg2"]
        createKey := fun _ _ => pure (.ed25519 (List.replicate 32 7))
        publicKey := fun _ => pure (.ed25519 (List.replicate 32 7))
        signMessage := fun _ _ => pure [1, 2, 3]
        verifySignature := fun _ _ _ => pure () }
    let factory : Factory Unit := fun _ => pure signer
    let arguments := "--" :: (Invocation.command "p" [] {} (.defaultAlgorithm {})).arguments
    arguments.length = 3 ∧
      (runCommand factory.recorded 0 "p" arguments []).run ([], ()) =
        (.ok ⟨0, "\x7b\"defaultAlgorithm\":\x7b\"defaultAlgorithm\":\"alg1\"\x7d\x7d"⟩,
          [.make {}, .call .defaultAlgorithm], ()) ∧
      (serve factory.recorded 0 ("p" :: arguments) []).run ([], ()) =
        (.ok (refused "Expected protocol version and plugin args, got 3 arguments"), [], ()) := by
  intro signer factory arguments
  have parsed : parseArguments ("p" :: handedOn arguments) = .ok ⟨{}, .defaultAlgorithm {}⟩ :=
    parseArguments_command "p" rfl (MethodArgs.inMinutes_defaultAlgorithm {})
  have three : arguments.length = 3 := rfl
  -- From here on only what the arguments are parsed to matters, and their text must not be
  -- computed.
  clear_value arguments
  have made : (factory.recorded {}).outcome ([], ()) = (.ok (watched signer), [.make {}], ()) := rfl
  have answers : (dispatch (watched signer) 0 [] (.defaultAlgorithm {})).run ([.make {}], ()) =
      (.ok (PluginResp.form.encode { defaultAlgorithm := some ⟨"alg1"⟩ }),
        [.make {}, .call .defaultAlgorithm], ()) :=
    rfl
  have text : PluginResp.form.encode { defaultAlgorithm := some ⟨"alg1"⟩ } =
      "\x7b\"defaultAlgorithm\":\x7b\"defaultAlgorithm\":\"alg1\"\x7d\x7d" := by decide +kernel
  have counted : (ArgumentFault.count 4).message =
      "Expected protocol version and plugin args, got 3 arguments" := by
    decide +kernel
  refine ⟨three, ?_, ?_⟩
  · rw [runCommand_eq, serve_made parsed made, answers, text]
    rfl
  · rw [serve_counted (by simp [three]), List.length_cons, three, counted]

end SignerPlugin.Plugin
