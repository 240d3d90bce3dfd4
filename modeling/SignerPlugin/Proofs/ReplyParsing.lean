import SignerPlugin.Invocation
import SignerPlugin.Proofs.WireRoundTrip

/-! What becomes of a plugin's output. The error message alone is looked at first, so that
damage to the results cannot hide it; the whole reply is read only where there is none. -/

namespace SignerPlugin

open Message Schema

namespace Message

namespace Method

/-- The kind of a method's result. -/
def Result : Method → Type
  | .defaultAlgorithm => DefaultAlgorithmResp
  | .supportedAlgorithms => SupportedAlgorithmsResp
  | .createKey => KeyResp
  | .publicKey => KeyResp
  | .signMessage => SignMessageResp
  | .verifySignature => Blank

/-- The codec of a method's result. -/
def resultCodec : (method : Method) → Codec method.Result
  | .defaultAlgorithm => DefaultAlgorithmResp.codec
  | .supportedAlgorithms => SupportedAlgorithmsResp.codec
  | .createKey => KeyResp.codec
  | .publicKey => KeyResp.codec
  | .signMessage => SignMessageResp.codec
  | .verifySignature => Blank.codec

end Method

namespace PluginResp

/-- The result that a reply has for a method. -/
def result? (reply : PluginResp) : (method : Method) → Option method.Result
  | .defaultAlgorithm => reply.defaultAlgorithm
  | .supportedAlgorithms => reply.supportedAlgorithms
  | .createKey => reply.createKey
  | .publicKey => reply.publicKey
  | .signMessage => reply.signMessage
  | .verifySignature => reply.verifySignature

theorem has_iff {reply : PluginResp} {method : Method} :
    reply.has method ↔ ∃ result, reply.result? method = some result := by
  cases method <;> exact Option.isSome_iff_exists

/-- The error message and the results of a reply are read one by one, each out of its own member. -/
theorem members_read {members : Json.Members} {reply : PluginResp}
    (read : codec.read (.obj members) = .ok reply) :
    (Members.optional errorMember errorMessage .text).read members = .ok reply.errorMessage ∧
      ∀ method : Method, (Members.optional method.member
        (fun reply : PluginResp => reply.result? method)
        method.resultCodec).read members = .ok (reply.result? method) := by
  simp only [codec, Codec.record, Members.and_read_eq_ok, Members.none_read_eq_ok] at read
  obtain ⟨_, verified, ⟨_, signed,
    ⟨_, key, ⟨_, created, ⟨_, supported, ⟨_, preferred, ⟨_, message, rfl, states, rfl⟩, prefers,
    rfl⟩, supports, rfl⟩, creates, rfl⟩, keys, rfl⟩, signs, rfl⟩, verifies, rfl⟩ := read
  refine ⟨states, fun method => ?_⟩
  cases method with
  | defaultAlgorithm => exact prefers
  | supportedAlgorithms => exact supports
  | createKey => exact creates
  | publicKey => exact keys
  | signMessage => exact signs
  | verifySignature => exact verifies

end PluginResp

end Message

namespace InvocationError

/-- The output was no valid reply to the method. -/
def IsUnreadable : InvocationError → Prop
  | .emptyReply _ => True
  | .unreadableReply _ _ => True
  | .missingResult _ _ => True
  | _ => False

end InvocationError

namespace Invocation

/-- The output is an object whose error message is the text. -/
def ErrorIs (stdout : Bytes) (text : String) : Prop :=
  ∃ members spelling, Json.parse? stdout = some (.obj members) ∧
    given? PluginResp.errorMember members = some (spelling, .str text)

/-- The output is an object without error message, or with null in its place. -/
def ErrorAbsent (stdout : Bytes) : Prop :=
  ∃ members, Json.parse? stdout = some (.obj members) ∧
    (given? PluginResp.errorMember members = none ∨
      ∃ spelling, given? PluginResp.errorMember members = some (spelling, .null))

section Decoders

variable {ρ : Type} {name : MemberName} {part : ρ → Option String} {given : Json.Members}

private theorem optional_text_none :
    (Members.optional name part .text).read given = .ok none ↔
      given? name given = none ∨ ∃ spelling, given? name given = some (spelling, .null) := by
  simp only [Members.optional]
  split
  · rename_i spelling same
    simp [same]
  · rename_i spelling tree notNull same
    have noNull : tree ≠ .null := fun null => notNull null
    simp [same, Checked.within_eq_ok, Checked.map_eq_ok, noNull]
  · rename_i same
    simp [same]

private theorem optional_text_some {text : String} :
    (Members.optional name part .text).read given = .ok (some text) ↔
      ∃ spelling, given? name given = some (spelling, .str text) := by
  simp only [Members.optional]
  split
  · rename_i spelling same
    simp [same]
  · rename_i spelling tree notNull same
    simp only [same, Checked.within_eq_ok, Checked.map_eq_ok, Codec.text]
    cases tree <;> simp [Checked.fail]
  · rename_i same
    simp [same]

end Decoders

variable {stdout : Bytes}

theorem errorReply_decode_eq_ok {found : ErrorReply} :
    ErrorReply.form.decode stdout = .ok found ↔
      ∃ members, Json.parse? stdout = some (.obj members) ∧
      (Members.optional PluginResp.errorMember ErrorReply.errorMessage .text).read members =
        .ok found.errorMessage := by
  rw [Form.decode_eq_ok]
  constructor
  · rintro ⟨tree, parsed, whole⟩
    obtain ⟨given, rfl, read⟩ := Codec.record_read_eq_ok.mp whole
    obtain ⟨_, message, same, first, rfl⟩ := Members.and_read_eq_ok.mp read
    obtain rfl := Members.none_read_eq_ok.mp same
    exact ⟨given, parsed, first⟩
  · rintro ⟨members, parsed, read⟩
    refine ⟨_, parsed, Codec.record_read_eq_ok.mpr ⟨members, rfl, ?_⟩⟩
    exact Members.and_read_eq_ok.mpr ⟨_, _, rfl, read, rfl⟩

theorem errorReply_none : ErrorReply.form.decode stdout = .ok ⟨none⟩ ↔ ErrorAbsent stdout := by
  simp only [errorReply_decode_eq_ok, optional_text_none, ErrorAbsent]

theorem errorReply_some {text : String} :
    ErrorReply.form.decode stdout = .ok ⟨some text⟩ ↔ ErrorIs stdout text := by
  simp only [errorReply_decode_eq_ok, optional_text_some, ErrorIs, exists_and_left]

/-- The whole reply has the error message that is read alone. -/
theorem errorReply_of_pluginResp {reply : PluginResp}
    (decoded : PluginResp.form.decode stdout = .ok reply) :
    ErrorReply.form.decode stdout = .ok ⟨reply.errorMessage⟩ := by
  obtain ⟨tree, parsed, whole⟩ := Form.decode_eq_ok.mp decoded
  obtain ⟨given, rfl, -⟩ := Codec.record_read_eq_ok.mp whole
  exact errorReply_decode_eq_ok.mpr ⟨given, parsed, (PluginResp.members_read whole).1⟩

private theorem parse?_nil : Json.parse? [] = none := by
  have empty : Bytes.text? [] = some "" := Bytes.text?_ofText ""
  rw [Json.parse?, empty]
  rfl

theorem not_isEmpty {found : ErrorReply} (decoded : ErrorReply.form.decode stdout = .ok found) :
    stdout.isEmpty = false := by
  cases stdout with
  | nil =>
    obtain ⟨tree, parsed, _⟩ := Form.decode_eq_ok.mp decoded
    rw [parse?_nil] at parsed
    cases parsed
  | cons _ _ => rfl

variable {plugin : String} {method : Method}

/-- An output is that error which its error message is, whatever else stands in it. -/
theorem parseReply_of_errorIs {text : String} (stated : ErrorIs stdout text) (filled : text ≠ "") :
    parseReply plugin method stdout = .error (.returned text) := by
  have decoded := errorReply_some.mpr stated
  simp [parseReply, not_isEmpty decoded, decoded, Option.filter, filled]

theorem parseReply_of_silent (silent : ErrorAbsent stdout ∨ ErrorIs stdout "") :
    parseReply plugin method stdout = parseResult plugin method stdout := by
  rcases silent with silent | silent
  · have decoded := errorReply_none.mpr silent
    simp [parseReply, not_isEmpty decoded, decoded]
  · have decoded := errorReply_some.mpr silent
    simp [parseReply, not_isEmpty decoded, decoded, Option.filter]

theorem parseResult_ok {reply : PluginResp} :
    parseResult plugin method stdout = .ok reply ↔
      PluginResp.form.decode stdout = .ok reply ∧ reply.has method := by
  unfold parseResult
  cases PluginResp.form.decode stdout with
  | error report => simp
  | ok found =>
    by_cases has : found.has method
    · simp only [has, if_true, Except.ok.injEq]
      constructor
      · rintro rfl
        exact ⟨rfl, has⟩
      · exact fun same => same.1
    · simp only [has, Bool.false_eq_true, if_false, reduceCtorEq, Except.ok.injEq,
        false_iff, not_and]
      rintro rfl
      exact has

theorem parseResult_error {error : InvocationError}
    (failed : parseResult plugin method stdout = .error error) :
    error.IsUnreadable := by
  unfold parseResult at failed
  split at failed
  · cases failed
    trivial
  · split at failed
    · cases failed
    · cases failed
      trivial

theorem parseReply_of_neither (unsaid : ∀ text, ¬ ErrorIs stdout text)
    (notSilent : ¬ ErrorAbsent stdout) :
    ∃ error, parseReply plugin method stdout = .error error ∧ error.IsUnreadable := by
  unfold parseReply
  split
  · exact ⟨_, rfl, trivial⟩
  · cases decoded : ErrorReply.form.decode stdout with
    | error report => exact ⟨_, rfl, trivial⟩
    | ok found =>
      obtain ⟨message⟩ := found
      cases message with
      | none => exact absurd (errorReply_none.mp decoded) notSilent
      | some text => exact absurd (errorReply_some.mp decoded) (unsaid text)

theorem errorMessage_cases (stdout : Bytes) :
    (∃ text, ErrorIs stdout text ∧ text ≠ "") ∨ (ErrorAbsent stdout ∨ ErrorIs stdout "") ∨
      ((∀ text, ¬ ErrorIs stdout text) ∧ ¬ ErrorAbsent stdout) := by
  by_cases absent : ErrorAbsent stdout
  · exact .inr (.inl (.inl absent))
  · by_cases stated : ∃ text, ErrorIs stdout text
    · obtain ⟨text, stated⟩ := stated
      by_cases empty : text = ""
      · exact .inr (.inl (.inr (empty ▸ stated)))
      · exact .inl ⟨text, stated, empty⟩
    · exact .inr (.inr ⟨fun text found => stated ⟨text, found⟩, absent⟩)

theorem parseReply_returned {text : String} :
    parseReply plugin method stdout = .error (.returned text) ↔ ErrorIs stdout text ∧
      text ≠ "" := by
  constructor
  · intro failed
    rcases errorMessage_cases stdout with ⟨other, stated, filled⟩ | silent | ⟨unstated, notAbsent⟩
    · rw [parseReply_of_errorIs stated filled] at failed
      cases failed
      exact ⟨stated, filled⟩
    · rw [parseReply_of_silent silent] at failed
      exact (parseResult_error failed).elim
    · obtain ⟨error, same, unreadable⟩ := parseReply_of_neither unstated notAbsent
      rw [same] at failed
      cases failed
      exact unreadable.elim
  · rintro ⟨stated, filled⟩
    exact parseReply_of_errorIs stated filled

theorem parseReply_ok {reply : PluginResp} :
    parseReply plugin method stdout = .ok reply ↔ (ErrorAbsent stdout ∨ ErrorIs stdout "") ∧
      PluginResp.form.decode stdout = .ok reply ∧ reply.has method := by
  constructor
  · intro passed
    rcases errorMessage_cases stdout with ⟨other, stated, filled⟩ | silent | ⟨unstated, notAbsent⟩
    · rw [parseReply_of_errorIs stated filled] at passed
      cases passed
    · rw [parseReply_of_silent silent] at passed
      exact ⟨silent, parseResult_ok.mp passed⟩
    · obtain ⟨error, same, _⟩ := parseReply_of_neither unstated notAbsent
      rw [same] at passed
      cases passed
  · rintro ⟨silent, decoded⟩
    rw [parseReply_of_silent silent]
    exact parseResult_ok.mpr decoded

theorem parseReply_error {error : InvocationError}
    (failed : parseReply plugin method stdout = .error error) :
    error.IsUnreadable ∨ ∃ text, error = .returned text := by
  rcases errorMessage_cases stdout with ⟨text, stated, filled⟩ | silent | ⟨unstated, notAbsent⟩
  · rw [parseReply_of_errorIs stated filled] at failed
    cases failed
    exact .inr ⟨text, rfl⟩
  · rw [parseReply_of_silent silent] at failed
    exact .inl (parseResult_error failed)
  · obtain ⟨other, same, unreadable⟩ := parseReply_of_neither unstated notAbsent
    rw [same] at failed
    cases failed
    exact .inl unreadable

end Invocation
end SignerPlugin
