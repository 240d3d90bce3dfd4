import SignerPlugin.CommandLine
import SignerPlugin.LogLevel
import SignerPlugin.Plugin.Arguments
import SignerPlugin.Plugin.Dispatch

/-! A plugin program: it serves one request, given in its arguments, and writes one reply. -/

namespace SignerPlugin.Plugin

open Message
open Text (Unwritable)

variable {σ κ : Type} [PemKey κ]

/-- What a program leaves: its exit status and what it wrote. -/
structure Served where
  status : Nat
  output : String
  deriving DecidableEq, Repr

/-- Makes the signer that a client's binding asks for. -/
abbrev Factory (σ : Type) (κ : Type := PublicKey) := InitOptions → Action σ (Signer σ κ)

def refused (message : String) : Served :=
  ⟨1, PluginResp.form.encode (.failure message)⟩

/-- Leaves the message of a failure to make a signer. -/
def unmade (fault : Fault) : Except Unwritable Served :=
  (Text.Writable.written fault.text).map refused

/-- Serves the request in a program's arguments. The status tells whether the request could be
read and a signer made; how the method itself went is for the reply to say. Nothing is left if
the reply cannot be written. -/
def serve (factory : Factory σ κ) (now : Instant) (arguments : List String) (stdin : Bytes) :
    StateM σ (Except Unwritable Served) := do
  match parseArguments arguments with
  | .error fault => return .ok (refused fault.message)
  | .ok args =>
    match ← (factory args.initOptions).run with
    | .error fault => return unmade fault
    | .ok signer => return (← dispatch signer now stdin args.methodArgs).map (⟨0, ·⟩)

/-- Serves the request in a program's arguments, and writes the reply behind what stands on an
output already. -/
def serveOnto (factory : Factory σ κ) (now : Instant) (arguments : List String)
    (stdin output : Bytes) :
    StateM σ (Bytes × Except Unwritable Nat) := do
  match parseArguments arguments with
  | .error fault => return ending 1 (writeReply output (.failure fault.message))
  | .ok args =>
    match ← (factory args.initOptions).run with
    | .error fault => return ending 1 (writeReply output (.failure fault.text))
    | .ok signer => return ending 0 (← respond signer now stdin args.methodArgs output)
where
  /-- Ends with a status what has been written. -/
  ending (status : Nat) : Bytes × Except Unwritable Nat → Bytes × Except Unwritable Nat :=
    Prod.map id (Except.map fun _ => status)

/-- The arguments that a command line hands on: all of them except the first `--`. -/
def handedOn (arguments : List String) : List String := arguments.erase "--"

/-- The command line of a plugin program: it has no options, not even one for help, and takes
every word that looks like one for an argument. -/
def commandLine : CommandLine := ⟨[], [], true⟩

/-- Serves the request in the arguments of a command line. One that cannot be read is refused
without a reply. -/
def runCommand (factory : Factory σ κ) (now : Instant) (program : String) (arguments : List String)
    (stdin : Bytes) : StateM σ (Except Unwritable Served) :=
  match commandLine.read arguments with
  | none => return .ok ⟨2, ""⟩
  | some parsed => serve factory now (program :: parsed.arguments) stdin

end SignerPlugin.Plugin
