import Std.Time.DateTime.Timestamp
import SignerPlugin.ClientConfig
import SignerPlugin.LocalKey
import SignerPlugin.Plugin.Serve

/-! The plugin program for keys in files. It looks up what stands on the way to the key that
the request names, serves the request on this, and then carries out what was put into the tree
of files. -/

namespace SignerPlugin.LocalProgram

open Message

/-- The name of the program. -/
def name : String := ProgramPrefix.standard.text ++ LocalKey.scheme

/-- The request that a command line holds. -/
def request? (arguments : List String) : Option PluginArgs :=
  (Plugin.parseArguments (name :: Plugin.handedOn arguments)).toOption

/-- The path of the key that a request is about. -/
def keyPath? (request : PluginArgs) : Option Path :=
  let init := request.initOptions
  (LocalKey.ofResource init.keyResourceId init.hashFunc .standard).toOption.map LocalKey.path

/-- Whether a method acts on a message, which then comes on the standard input. -/
def takesMessage : Method → Bool
  | .signMessage | .verifySignature => true
  | _ => false

/-- What was put into a tree since, in the order in which this was done. -/
def putSince (before after : FileTree) : List (Location × FileNode) :=
  (after.nodes.take (after.nodes.length - before.nodes.length)).reverse

/-- The paths on the way to a path, itself included. -/
def stages (path : Path) : List Path :=
  (List.range path.names.length).map fun count => ⟨path.root, path.names.take (count + 1)⟩

private def locationText (location : Location) : String := "/" ++ "/".intercalate location

/-- What stands at a place. -/
def look (location : Location) : IO (Option FileNode) := do
  try
    let content ← IO.FS.readBinFile (locationText location)
    return some (.file content.toList 0o600)
  catch
    | .noFileOrDirectory .. => return none
    | .inappropriateType .. => return some .directory
    | fault => throw fault

/-- Adds what stands on the way to a path, stage by stage, as far as it goes. -/
def explore (tree : FileTree) : List Path → IO FileTree
  | [] => return tree
  | stage :: rest => do
    match tree.place stage with
    | .ok (.directory _) => explore tree rest
    | .ok (.vacant location) =>
      match ← look location with
      | some node => explore (tree.put location node) rest
      | none => return tree
    | _ => return tree

/-- Puts a node where the tree has it. A file is for its owner only. -/
def store (location : Location) : FileNode → IO Unit
  | .device => return ()
  | .directory => IO.FS.createDir (locationText location)
  | .file content _ => do
    IO.FS.writeBinFile (locationText location) ⟨content.toArray⟩
    IO.setAccessRights (locationText location) { user := { read := true, write := true } }

partial def readAll (stream : IO.FS.Stream) (read : ByteArray) : IO ByteArray := do
  let more ← stream.read 65536
  if more.isEmpty then return read else readAll stream (read ++ more)

/-- The present, in microseconds from the start of year 1. -/
def present : IO Instant := do
  let clock ← Std.Time.Timestamp.now
  let nanos := clock.toNanosecondsSinceUnixEpoch.toInt
  return Time.Calendar.dayNumber 1970 1 1 * Time.day + nanos / 1000

/-- Serves the request in a command line. -/
def run (arguments : List String) : IO UInt32 := do
  let request := request? arguments
  let here := (Path.ofText (toString (← IO.currentDir))).names
  let stages := ((request.bind keyPath?).map stages).getD []
  let files ← explore { workingDir := here } stages
  let seed ← IO.getRandomBytes 64
  let message ← if request.any (takesMessage ·.methodArgs.method) then readAll (← IO.getStdin) .empty
    else pure .empty
  let served :=
    Plugin.runCommand (LocalKey.serving .standard) (← present) name arguments message.toList
  let (served, disk) := served.run ⟨files, { seed := seed.toList }⟩
  for (location, node) in putSince files disk.files do
    store location node
  match served with
  | .error fault => throw (.userError fault.message)
  | .ok reply =>
    let out ← IO.getStdout
    out.putStr reply.output
    out.flush
    return .ofNat reply.status

end SignerPlugin.LocalProgram

def main (arguments : List String) : IO UInt32 := SignerPlugin.LocalProgram.run arguments
