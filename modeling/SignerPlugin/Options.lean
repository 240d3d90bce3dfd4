import SignerPlugin.Bytes
import SignerPlugin.CallContext
import SignerPlugin.HashFunc

/-! The options of a call. Each option sets one value; of several that set the same value the last
counts, and what no option sets is left to the callee. Callers may use texts of another kind than
strings. -/

namespace SignerPlugin

inductive SignerOption (θ : Type := String)
  | context (ctx : CallContext)
  | keyVersion (version : θ)
  | remoteVerification (wanted : Bool)
  | digest (digest : Bytes)
  | hashFunc (hash : HashFunc)
  deriving DecidableEq, Repr

namespace SignerOption

variable {θ : Type}

def name : SignerOption θ → String
  | .context _ => "context"
  | .keyVersion _ => "key_version"
  | .remoteVerification _ => "remote_verification"
  | .digest _ => "digest"
  | .hashFunc _ => "hash_func"

/-- Whether the option is about the message and not about the call as such. -/
def isMessageOption : SignerOption θ → Bool
  | .digest _ => true
  | .hashFunc _ => true
  | _ => false

end SignerOption

/-- What a list of options sets. -/
structure OptionValues (θ : Type := String) where
  context : Option CallContext := none
  keyVersion : Option θ := none
  remoteVerification : Option Bool := none
  digest : Option Bytes := none
  hashFunc : Option HashFunc := none
  deriving DecidableEq, Repr

/-- An option about the message where there is none. -/
structure MisplacedOption (θ : Type := String) where
  option : SignerOption θ
  deriving DecidableEq, Repr

def MisplacedOption.message {θ : Type} (misplaced : MisplacedOption θ) : String :=
  misplaced.option.name ++ " is not an RPC option"

namespace OptionValues

variable {θ : Type}

def set (values : OptionValues θ) : SignerOption θ → OptionValues θ
  | .context ctx => { values with context := some ctx }
  | .keyVersion version => { values with keyVersion := some version }
  | .remoteVerification wanted => { values with remoteVerification := some wanted }
  | .digest digest => { values with digest := some digest }
  | .hashFunc hash => { values with hashFunc := some hash }

/-- What the options set, in their order. -/
def ofOptions (options : List (SignerOption θ)) : OptionValues θ := options.foldl set {}

/-- What the options of a call without message set; options about a message are refused. -/
def ofCallOptions (options : List (SignerOption θ)) : Except (MisplacedOption θ) (OptionValues θ) :=
  match options.find? SignerOption.isMessageOption with
  | some option => .error ⟨option⟩
  | none => .ok (ofOptions options)

/-- The context that the call runs under. -/
def ctx (values : OptionValues θ) : CallContext := values.context.getD .background

@[simp]
theorem ofOptions_nil : ofOptions ([] : List (SignerOption θ)) = {} := rfl

@[simp]
theorem ofOptions_append_singleton (options : List (SignerOption θ)) (option : SignerOption θ) :
    ofOptions (options ++ [option]) = (ofOptions options).set option := by
  simp [ofOptions]

end OptionValues
end SignerPlugin
