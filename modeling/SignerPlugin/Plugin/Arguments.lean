import SignerPlugin.Message.Form
import SignerPlugin.Text.Quoted

/-! The arguments of a plugin program: its own name, the version of the protocol, and a
request. They are looked at in this order, so that the first fault decides. -/

namespace SignerPlugin.Plugin

open Message Schema

/-- What is wrong with a program's arguments. -/
inductive ArgumentFault
  | count (found : Nat)
  | version (sent : String)
  | request (report : Report)
  | bindingVersion (sent : String)
  deriving DecidableEq, Repr

namespace ArgumentFault

/-- Whether the two sides speak different versions of the protocol. -/
def isVersionFault : ArgumentFault → Bool
  | .version _ => true
  | .bindingVersion _ => true
  | _ => false

def message : ArgumentFault → String
  | .count found =>
    "Expected protocol version and plugin args, got " ++ toString ((found : Int) - 1) ++
      " arguments"
  | .version sent =>
    "Protocol version mismatch: plugin supports " ++ protocolVersion ++ ", client sent " ++
      Text.quoted sent
  | .request report => "Invalid plugin args: " ++ report.message
  | .bindingVersion sent => "Protocol version mismatch in init options: " ++ Text.quoted sent

end ArgumentFault

/-- The request that a program's arguments hold. -/
def parseArguments (arguments : List String) : Except ArgumentFault PluginArgs :=
  match arguments with
  | [_, version, request] =>
    if version ≠ protocolVersion then .error (.version version)
    else match PluginArgs.form.decode (Bytes.ofText request) with
      | .error report => .error (.request report)
      | .ok args =>
        if args.initOptions.protocolVersion ≠ protocolVersion then
          .error (.bindingVersion args.initOptions.protocolVersion)
        else .ok args
  | arguments => .error (.count arguments.length)

end SignerPlugin.Plugin
