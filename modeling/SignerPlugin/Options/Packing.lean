import SignerPlugin.Message.Options
import SignerPlugin.Options

/-! Options in messages. Packing writes what the options set into a bag; unpacking makes one
option for each member that a bag has. A context is packed as its deadline alone, and comes
out as a fresh one. -/

namespace SignerPlugin

open Message

variable {θ : Type}

namespace OptionValues

def rpc (values : OptionValues θ) : RpcOptions θ :=
  { ctxDeadline := values.context.bind fun ctx => ctx.deadline.map (·.timestamp)
    keyVersion := values.keyVersion
    remoteVerification := values.remoteVerification }

def message (values : OptionValues θ) : MessageOptions :=
  { digest := values.digest, hashFunc := values.hashFunc }

end OptionValues

namespace Options

def packRpc (options : List (SignerOption θ)) : Except (MisplacedOption θ) (RpcOptions θ) :=
  (OptionValues.ofCallOptions options).map OptionValues.rpc

def packMessage (options : List (SignerOption θ)) : MessageOptions :=
  (OptionValues.ofOptions options).message

def packPublicKey (options : List (SignerOption θ)) :
    Except (MisplacedOption θ) (PublicKeyOptions θ) :=
  packRpc options

def packSign (options : List (SignerOption θ)) : SignOptions θ :=
  let values := OptionValues.ofOptions options
  { toMessageOptions := values.message, toRpcOptions := values.rpc }

def packVerify (options : List (SignerOption θ)) : VerifyOptions θ := packSign options

def unpackRpc (bag : RpcOptions θ) : Except UnawareDeadline (List (SignerOption θ)) := do
  let context ← match bag.ctxDeadline with
    | some _ => (CallContext.ofTimestamp bag.ctxDeadline).map fun ctx => [SignerOption.context ctx]
    | none => .ok []
  return context ++ (bag.keyVersion.map .keyVersion).toList ++
    (bag.remoteVerification.map .remoteVerification).toList

def unpackMessage (bag : MessageOptions) : List (SignerOption θ) :=
  (bag.digest.map .digest).toList ++ (bag.hashFunc.map .hashFunc).toList

def unpackPublicKey (bag : PublicKeyOptions θ) : Except UnawareDeadline (List (SignerOption θ)) :=
  unpackRpc bag

def unpackSign (bag : SignOptions θ) : Except UnawareDeadline (List (SignerOption θ)) := do
  return (← unpackRpc bag.toRpcOptions) ++ unpackMessage bag.toMessageOptions

def unpackVerify (bag : VerifyOptions θ) : Except UnawareDeadline (List (SignerOption θ)) :=
  unpackSign bag

end Options
end SignerPlugin
