import SignerPlugin.LocalKey

/-! One key asked for by many calls at a time, each in a process with random bytes of its own.
A call looks for the file in one step and writes it in another; the steps of different calls
may come in any order. -/

namespace SignerPlugin.LocalKey

/-- How far a call for a key has come. -/
inductive Stage
  | begun
  /-- There was no file. -/
  | missing
  | made (key : PrivateKey)
  | stored (key : PrivateKey)
  | ended (result : Except LocalKeyFault PublicKey)

structure Creation where
  algorithm : String
  entropy : Entropy
  stage : Stage := .begun

/-- Calls for a key, in the order in which they were begun, with the files that they share. -/
structure Creations where
  files : FileTree
  calls : List Creation := []

inductive CreationEvent
  | begin (algorithm : String) (entropy : Entropy)
  | test (call : Nat)
  | generate (call : Nat)
  | write (call : Nat)
  | answer (call : Nat)
  deriving DecidableEq, Repr

/-- A call after the test for the file. If it is there its key is read in the same step. -/
def Creation.tested (here : LocalKey) (files : FileTree) (call : Creation) : Creation :=
  match files.exists? here.path with
  | .error fault => { call with stage := .ended (.error (.file fault)) }
  | .ok true => { call with stage := .ended ((here.load files).map here.suite.publicOf) }
  | .ok false => { call with stage := .missing }

/-- A call after a key was made for it. -/
def Creation.generated (here : LocalKey) (call : Creation) : Creation :=
  match KeyAlgorithm.ofName? call.algorithm with
  | none => { call with stage := .ended (.error (.unsupportedAlgorithm call.algorithm)) }
  | some algorithm =>
    let (key, entropy) := here.suite.generate algorithm call.entropy
    { call with entropy, stage := .made key }

/-- A call and the files after its key was written, whatever stands there by now. -/
def Creation.written (here : LocalKey) (files : FileTree) (key : PrivateKey) (call : Creation) :
    Creation × FileTree :=
  match here.store files key with
  | (some fault, files) => ({ call with stage := .ended (.error (.file fault)) }, files)
  | (none, files) => ({ call with stage := .stored key }, files)

/-- A call and the files after an event that is about it. Nothing when the event cannot happen
now. -/
def Creation.turn (here : LocalKey) (files : FileTree) (call : Creation) :
    CreationEvent → Option (Creation × FileTree)
  | .begin _ _ => none
  | .test _ => match call.stage with
    | .begun => some (call.tested here files, files)
    | _ => none
  | .generate _ => match call.stage with
    | .missing => some (call.generated here, files)
    | _ => none
  | .write _ => match call.stage with
    | .made key => some (call.written here files key)
    | _ => none
  | .answer _ => match call.stage with
    | .stored key => some ({ call with stage := .ended (.ok (here.suite.publicOf key)) }, files)
    | _ => none

namespace Creations

/-- What there is after an event. Nothing when the event cannot happen now. -/
def step (here : LocalKey) (state : Creations) (event : CreationEvent) : Option Creations :=
  let about (i : Nat) := do
    let (call, files) ← (← state.calls[i]?).turn here state.files event
    return ⟨files, state.calls.set i call⟩
  match event with
  | .begin algorithm entropy => some { state with calls := state.calls ++ [{ algorithm, entropy }] }
  | .test i => about i
  | .generate i => about i
  | .write i => about i
  | .answer i => about i

/-- What there is after several events; those that cannot happen when their turn comes are
passed over. -/
def play (here : LocalKey) (state : Creations) (events : List CreationEvent) : Creations :=
  events.foldl (fun state event => (state.step here event).getD state) state

end Creations
end SignerPlugin.LocalKey
