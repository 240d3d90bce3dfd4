import SignerPlugin.Message.Reply
import SignerPlugin.Proofs.FailingSteps

/-! Messages that are made of texts of any kind. The message that is written says the same in
strings: it can be had exactly if each text can be written, and it is made of the strings that
these are. -/

namespace SignerPlugin.Message

open Text

/-- Writing has one outcome at most, and that is what stands for the thing that is written. -/
def Exact {ε α β : Type} (write : α → Except ε β) (back : β → Id α) : Prop :=
  ∀ {a b}, write a = .ok b ↔ back b = a

namespace Exact

variable {ε α β : Type} {write : α → Except ε β} {back : β → Id α}

theorem option (exact : Exact write back) : Exact (Option.mapM write ·) (Option.mapM back ·) := by
  intro found other
  cases found with
  | none => cases other <;> simp [pure, Except.pure]
  | some a =>
    have made : (Option.mapM write (some a) = .ok other) ↔ ∃ b, write a = .ok b ∧ some b = other :=
      map_eq_ok
    cases other with
    | none => exact iff_of_false (fun same => nomatch (made.mp same).choose_spec.2) nofun
    | some b =>
      simp only [made, exact (a := a), Option.some_inj, exists_eq_right]
      exact Option.some_inj.symm

theorem list (exact : Exact write back) : Exact (List.mapM write ·) (List.mapM back ·) := by
  intro items others
  induction items generalizing others with
  | nil => cases others <;> simp [pure, Except.pure]
  | cons a rest ih => cases others with
    | nil => simp [bind_eq_ok, pure, Except.pure]
    | cons b others =>
      simp only [List.mapM_cons, bind_eq_ok, pure_eq_ok, exact (a := a), ih, List.cons_eq_cons]
      constructor
      · rintro ⟨_, rfl, _, rfl, rfl, rfl⟩
        rfl
      · intro same
        obtain ⟨first, more⟩ := List.cons.inj same
        exact ⟨_, first, _, more, rfl, rfl⟩

end Exact

variable {θ : Type} [Writable θ]

/-- A string seen as a text. -/
private def back (string : String) : Id θ := (Writable.ofString string : θ)

theorem exact_written : Exact (Writable.written : θ → _) back := Writable.written_eq_ok

theorem RpcOptions.exact_written : Exact (mapTexts (Writable.written : θ → _)) (mapTexts back) := by
  intro options other
  obtain ⟨deadline, version, remote⟩ := options
  obtain ⟨deadline', version', remote'⟩ := other
  simp only [mapTexts, bind_eq_ok, pure_eq_ok,
    Message.exact_written.option (a := version)]
  constructor
  · rintro ⟨_, rfl, same⟩
    cases same
    rfl
  · rintro ⟨⟩
    exact ⟨_, rfl, rfl⟩

theorem SignOptions.exact_written :
    Exact (mapTexts (Writable.written : θ → _)) (mapTexts back) := by
  intro options other
  obtain ⟨message, rpc⟩ := options
  obtain ⟨message', rpc'⟩ := other
  simp only [mapTexts, bind_eq_ok, pure_eq_ok, RpcOptions.exact_written (a := rpc)]
  constructor
  · rintro ⟨_, rfl, same⟩
    cases same
    rfl
  · rintro ⟨⟩
    exact ⟨_, rfl, rfl⟩

theorem InitOptions.exact_written :
    Exact (mapTexts (Writable.written : θ → _)) (mapTexts back) := by
  intro init other
  obtain ⟨version, key, hash⟩ := init
  obtain ⟨version', key', hash'⟩ := other
  simp only [mapTexts, bind_eq_ok, pure_eq_ok, Message.exact_written (a := version),
    Message.exact_written (a := key)]
  constructor
  · rintro ⟨_, rfl, _, rfl, same⟩
    cases same
    rfl
  · rintro ⟨⟩
    exact ⟨_, rfl, _, rfl, rfl⟩

theorem MethodArgs.exact_written : Exact (mapTexts (Writable.written : θ → _)) (mapTexts back) := by
  intro args other
  constructor
  · intro writes
    cases args with
    | defaultAlgorithm args =>
      cases writes
      rfl
    | supportedAlgorithms args =>
      cases writes
      rfl
    | createKey args =>
      obtain ⟨algorithm, text, same⟩ := bind_eq_ok.mp writes
      cases same
      rw [mapTexts, Message.exact_written.mp text]
      rfl
    | publicKey args =>
      obtain ⟨bag, text, same⟩ := bind_eq_ok.mp writes
      cases same
      rw [mapTexts, RpcOptions.exact_written.mp text]
      rfl
    | signMessage args =>
      obtain ⟨bag, text, same⟩ := bind_eq_ok.mp writes
      cases same
      rw [mapTexts, SignOptions.exact_written.mp text]
      rfl
    | verifySignature args =>
      obtain ⟨bag, text, same⟩ := bind_eq_ok.mp writes
      cases same
      rw [mapTexts, SignOptions.exact_written.mp text]
      rfl
  · rintro rfl
    cases other with
    | defaultAlgorithm args => rfl
    | supportedAlgorithms args => rfl
    | createKey args => exact bind_eq_ok.mpr ⟨_, Message.exact_written.mpr rfl, rfl⟩
    | publicKey args => exact bind_eq_ok.mpr ⟨_, RpcOptions.exact_written.mpr rfl, rfl⟩
    | signMessage args => exact bind_eq_ok.mpr ⟨_, SignOptions.exact_written.mpr rfl, rfl⟩
    | verifySignature args => exact bind_eq_ok.mpr ⟨_, SignOptions.exact_written.mpr rfl, rfl⟩

/-- The request that is written is the one that stands for the request. -/
theorem PluginArgs.written_eq_ok {args : PluginArgs θ} {request : PluginArgs} :
    args.written = .ok request ↔ request.ofWritten = args := by
  obtain ⟨init, method⟩ := args
  obtain ⟨init', method'⟩ := request
  simp only [written, mapTexts, bind_eq_ok, pure_eq_ok,
    InitOptions.exact_written (a := init), MethodArgs.exact_written (a := method)]
  constructor
  · rintro ⟨_, rfl, _, rfl, same⟩
    cases same
    rfl
  · rintro ⟨⟩
    exact ⟨_, rfl, _, rfl, rfl⟩

theorem RpcOptions.back_string (options : RpcOptions) : mapTexts back options = options := by
  obtain ⟨deadline, version | version, remote⟩ := options <;> rfl

theorem MethodArgs.back_string (args : MethodArgs) : mapTexts back args = args := by
  cases args with
  | publicKey args =>
    rw [mapTexts, RpcOptions.back_string]
    rfl
  | signMessage args =>
    rw [mapTexts, SignOptions.mapTexts, RpcOptions.back_string]
    rfl
  | verifySignature args =>
    rw [mapTexts, SignOptions.mapTexts, RpcOptions.back_string]
    rfl
  | _ => rfl

/-- A request in strings is written as it is. -/
@[simp]
theorem PluginArgs.written_string (request : PluginArgs) : request.written = .ok request := by
  refine written_eq_ok.mpr ?_
  obtain ⟨init, args⟩ := request
  have same := MethodArgs.back_string args
  exact congrArg (PluginArgs.mk init) same

namespace PluginResp

private theorem exact_defaultAlgorithm : Exact
    (fun result : DefaultAlgorithmResp
      θ => do return (⟨← Writable.written result.defaultAlgorithm⟩ : DefaultAlgorithmResp))
    (fun result => do return ⟨← back result.defaultAlgorithm⟩) := by
  rintro ⟨text⟩ ⟨string⟩
  simp only [bind_eq_ok, pure_eq_ok, Message.exact_written (a := text)]
  constructor
  · rintro ⟨_, rfl, same⟩
    cases same
    rfl
  · rintro ⟨⟩
    exact ⟨_, rfl, rfl⟩

private theorem exact_supportedAlgorithms : Exact
    (fun result : SupportedAlgorithmsResp θ => do
      return (⟨← result.supportedAlgorithms.mapM Writable.written⟩ : SupportedAlgorithmsResp))
    (fun result => do return ⟨← result.supportedAlgorithms.mapM back⟩) := by
  rintro ⟨texts⟩ ⟨strings⟩
  simp only [bind_eq_ok, pure_eq_ok, Message.exact_written.list (a := texts)]
  constructor
  · rintro ⟨_, rfl, same⟩
    cases same
    rfl
  · rintro ⟨⟩
    exact ⟨_, rfl, rfl⟩

/-- The reply that is written is the one that stands for the reply. -/
theorem written_eq_ok {reply : PluginResp θ} {document : PluginResp} :
    reply.written = .ok document ↔ document.ofWritten = reply := by
  obtain ⟨message, algorithm, algorithms, made, known, signature, verified⟩ := reply
  obtain ⟨message', algorithm', algorithms', made', known', signature', verified'⟩ := document
  simp only [written, mapTexts, bind_eq_ok, pure_eq_ok,
    Message.exact_written.option (a := message), exact_defaultAlgorithm.option (a := algorithm),
    exact_supportedAlgorithms.option (a := algorithms)]
  constructor
  · rintro ⟨_, rfl, _, rfl, _, rfl, same⟩
    cases same
    rfl
  · rintro ⟨⟩
    exact ⟨_, rfl, _, rfl, _, rfl, rfl⟩

/-- The message of a failure is all that is to be written of it. -/
theorem written_failure (text : θ) :
    (failure text).written = (Writable.written text).map PluginResp.failure := by
  simp only [written, mapTexts, failure, Option.mapM_some, Option.mapM_none]
  cases Writable.written text <;> rfl

theorem written_algorithm (name : θ) :
    written { defaultAlgorithm := some ⟨name⟩ } =
      (Writable.written name).map fun string => { defaultAlgorithm := some ⟨string⟩ } := by
  simp only [written, mapTexts, Option.mapM_some, Option.mapM_none]
  cases Writable.written name <;> rfl

theorem written_algorithms (names : List θ) :
    written { supportedAlgorithms := some ⟨names⟩ } =
      (names.mapM Writable.written).map fun strings =>
        { supportedAlgorithms := some ⟨strings⟩ } := by
  simp only [written, mapTexts, Option.mapM_some, Option.mapM_none]
  cases names.mapM Writable.written <;> rfl

variable {reply : PluginResp θ} {document : PluginResp}

/-- Writing a reply does not change which results it has. -/
theorem has_written (writes : reply.written = .ok document) (method : Method) :
    document.has method = reply.has method := by
  rw [← written_eq_ok.mp writes]
  obtain ⟨message, algorithm, algorithms, made, known, signature, verified⟩ := document
  cases method with
  | defaultAlgorithm => cases algorithm <;> rfl
  | supportedAlgorithms => cases algorithms <;> rfl
  | _ => rfl

theorem errorMessage_written (writes : reply.written = .ok document)
    (quiet : reply.errorMessage = none) : document.errorMessage = none := by
  rw [← written_eq_ok.mp writes] at quiet
  obtain ⟨message, algorithm, algorithms, made, known, signature, verified⟩ := document
  cases message with
  | none => rfl
  | some text => cases quiet

private theorem mapM_back_string (strings : List String) : strings.mapM back = strings := by
  induction strings with
  | nil => rfl
  | cons string rest ih =>
    rw [List.mapM_cons, ih]
    rfl

/-- A reply in strings is written as it is. -/
@[simp]
theorem written_string (reply : PluginResp) : reply.written = .ok reply := by
  refine written_eq_ok.mpr ?_
  obtain ⟨message, algorithm, algorithms, made, known, signature, verified⟩ := reply
  cases algorithms with
  | none => cases message <;> cases algorithm <;> rfl
  | some result =>
    have same := mapM_back_string result.supportedAlgorithms
    cases message <;> cases algorithm <;>
      exact congrArg (fun names => PluginResp.mk _ _ (some ⟨names⟩) made known signature
        verified) same

end PluginResp
end SignerPlugin.Message
