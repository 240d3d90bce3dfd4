import SignerPlugin.Options.Packing
import SignerPlugin.Proofs.FailingSteps
import SignerPlugin.Proofs.LastOption
import SignerPlugin.Proofs.MessageCodecs

/-! Options and the bags that they are packed as. Values can be listed by options that set them
one by one, and are packed as the values that they are. A bag has only the deadline of a
context, which is as good as the context itself unless that is cancelled. -/

namespace SignerPlugin

open Message Options

namespace CallContext

theorem ofTimestamp_deadline (deadline : Option Time.Deadline) :
    ofTimestamp (deadline.map (·.timestamp)) = .ok { deadline } := by
  cases deadline with
  | none => rfl
  | some d =>
    simp only [Option.map_some, ofTimestamp, Time.Deadline.ofTimestamp?]
    rw [dif_pos d.aware]

theorem eq_of_not_cancelled {ctx : CallContext} (live : ctx.cancelled = false) :
    ctx = { deadline := ctx.deadline } := by
  cases ctx
  cases live
  rfl

end CallContext

namespace OptionValues

/-- The options that say the values one by one. -/
def listed (values : OptionValues) : List SignerOption :=
  (values.context.map .context).toList ++ (values.keyVersion.map .keyVersion).toList ++
    (values.remoteVerification.map .remoteVerification).toList ++
      (values.digest.map .digest).toList ++ (values.hashFunc.map .hashFunc).toList

theorem listed_listedBy (values : OptionValues) : values.ListedBy values.listed := by
  obtain ⟨context, version, remote, digest, hash⟩ := values
  intro field
  cases field <;> cases context <;> cases version <;> cases remote <;> cases digest <;>
    cases hash <;> rfl

theorem ofOptions_listed (values : OptionValues) : ofOptions values.listed = values :=
  values.listed_listedBy.ofOptions_eq

/-- The values that are about the call as such. -/
def callOnly (values : OptionValues) : OptionValues :=
  { values with digest := none, hashFunc := none }

theorem rpc_ctxDeadline {θ : Type} (values : OptionValues θ) :
    values.rpc.ctxDeadline = values.ctx.deadline.map (·.timestamp) := by
  obtain ⟨context, version, remote, digest, hash⟩ := values
  cases context <;> rfl

end OptionValues

namespace Options

open OptionValues

theorem packSign_listed (values : OptionValues) :
    packSign values.listed =
      { toMessageOptions := values.message, toRpcOptions := values.rpc } := by
  simp only [packSign, ofOptions_listed]

/-- Options are packed for a call without message exactly if none is about a message. -/
theorem packRpc_eq_ok {θ : Type} {options : List (SignerOption θ)} {bag : RpcOptions θ} :
    packRpc options = .ok bag ↔
      (∀ option ∈ options, option.isMessageOption = false) ∧ bag = (ofOptions options).rpc := by
  simp only [packRpc, map_eq_ok, ofCallOptions_eq_ok]
  constructor
  · rintro ⟨values, ⟨plain, rfl⟩, rfl⟩
    exact ⟨plain, rfl⟩
  · rintro ⟨plain, rfl⟩
    exact ⟨_, ⟨plain, rfl⟩, rfl⟩

/-- Options that list values for a call are packed as these. -/
theorem packRpc_of_listedBy {values : OptionValues} {options : List SignerOption}
    (lists : values.ListedBy options) (digest : values.digest = none)
    (hashFunc : values.hashFunc = none) : packRpc options = .ok values.rpc :=
  packRpc_eq_ok.mpr ⟨lists.isMessageOption_eq_false digest hashFunc, by rw [lists.ofOptions_eq]⟩

theorem packRpc_callOnly (values : OptionValues) :
    packRpc values.callOnly.listed = .ok values.rpc := by
  have packed : packRpc values.callOnly.listed = .ok values.callOnly.rpc :=
    packRpc_of_listedBy values.callOnly.listed_listedBy rfl rfl
  exact packed

end Options
end SignerPlugin
