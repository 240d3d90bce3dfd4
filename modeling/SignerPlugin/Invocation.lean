import SignerPlugin.Message.Form
import SignerPlugin.Command

/-! One call of a plugin: one process, and one verdict on how it went. A context that is done
outweighs everything else; after it come failures of the process; then the plugin's own error
message, and last what is wrong with its reply. -/

namespace SignerPlugin

open Message Schema Command

/-- How a call can fail. -/
inductive InvocationError
  | context (reason : ContextError)
  /-- The process could not be run to an end that can be trusted. -/
  | execution (plugin reason : String)
  | emptyReply (plugin : String)
  | unreadableReply (plugin : String) (report : Report)
  | missingResult (plugin : String) (method : Method)
  /-- The plugin replied with the message of an error. -/
  | returned (message : String)
  /-- The request cannot be written. -/
  | unwritable (fault : Text.Unwritable)
  deriving DecidableEq, Repr

def InvocationError.message : InvocationError → String
  | .context reason => reason.message
  | .execution plugin reason => "Error executing plugin " ++ plugin ++ ": " ++ reason
  | .emptyReply plugin => "Plugin " ++ plugin ++ " wrote an empty response"
  | .unreadableReply plugin report =>
    "Error parsing response from plugin " ++ plugin ++ ": " ++ report.message
  | .missingResult plugin method =>
    "Plugin " ++ plugin ++ " response has no " ++ method.name ++ " result"
  | .returned message => "plugin returned error: " ++ message
  | .unwritable fault => fault.message

namespace Invocation

/-- The reply to a method, in an output without error message. -/
def parseResult (plugin : String) (method : Method) (stdout : Bytes) :
    Except InvocationError PluginResp :=
  match PluginResp.form.decode stdout with
  | .error report => .error (.unreadableReply plugin report)
  | .ok reply => if reply.has method then .ok reply else .error (.missingResult plugin method)

/-- The reply to a method that a plugin wrote. The error message decides before any result is looked
at. -/
def parseReply (plugin : String) (method : Method) (stdout : Bytes) :
    Except InvocationError PluginResp :=
  if stdout.isEmpty then .error (.emptyReply plugin)
  else match ErrorReply.form.decode stdout with
    | .error report => .error (.unreadableReply plugin report)
    | .ok errorReply =>
      match errorReply.errorMessage.filter (· ≠ "") with
      | some message => .error (.returned message)
      | none => parseResult plugin method stdout

/-- The output that a run leaves for reading. A positive exit status is the plugin's own affair. -/
def output (plugin : String) : Ending → Except InvocationError Bytes
  | .returned stdout => .ok stdout
  | .exited exit =>
    if 0 < exit.status then .ok (exit.output.getD []) else .error (.execution plugin exit.message)
  | .failed reason => .error (.execution plugin reason)

/-- What a run that has ended means, given why the context is done by then. -/
def conclude (plugin : String) (method : Method) (done : Option ContextError) (ending : Ending) :
    Except InvocationError PluginResp :=
  match done with
  | some reason => .error (.context reason)
  | none => do parseReply plugin method (← output plugin ending)

/-- The command of a call. -/
def command (plugin : String) (stdin : Bytes) (init : InitOptions) (args : MethodArgs) : Command :=
  { name := plugin
    arguments := [init.protocolVersion, PluginArgs.form.encode ⟨init, args⟩]
    stdin := stdin }

/-- What comes of a call, with the context and the instant after it. -/
structure Outcome (α : Type) where
  result : α
  context : CallContext
  now : Instant

/-- Calls a plugin. No process is launched when the context is done already, or when the
request cannot be written. -/
def invoke {τ θ : Type} [Text.Writable θ] (launch : Launch τ) (plugin : String) (ctx : CallContext)
    (now : Instant) (stdin : Bytes) (init : InitOptions θ) (args : MethodArgs θ) :
    StateM τ (Outcome (Except InvocationError PluginResp)) := do
  match ctx.err? now with
  | some reason => return ⟨.error (.context reason), ctx, now⟩
  | none => match PluginArgs.written ⟨init, args⟩ with
    | .error fault => return ⟨.error (.unwritable fault), ctx, now⟩
    | .ok request =>
      let limit := (ctx.remaining? now).map Int.toNat
      let work ← launch limit (command plugin stdin request.initOptions request.methodArgs)
      let (verdict, ctx, now) := ctx.perform now work
      let result := match verdict.result with
        | .error reason => .error (.context reason)
        | .ok ending => conclude plugin args.method (ctx.err? now) ending
      return ⟨result, ctx, now⟩

end Invocation
end SignerPlugin
