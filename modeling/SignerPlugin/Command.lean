import SignerPlugin.Bytes
import SignerPlugin.CallContext
import SignerPlugin.Text.Quoted

/-! Programs that are run once: what they are given, and how their run can end. -/

namespace SignerPlugin

/-- A program to be run, with its arguments and its input. -/
structure Command where
  name : String
  arguments : List String
  stdin : Bytes
  deriving DecidableEq, Repr

namespace Command

/-- The names of signals by their numbers. -/
def signals : List (Nat × String) :=
  [(1, "SIGHUP"), (2, "SIGINT"), (3, "SIGQUIT"), (4, "SIGILL"), (5, "SIGTRAP"), (6, "SIGABRT"),
    (7, "SIGBUS"), (8, "SIGFPE"), (9, "SIGKILL"), (10, "SIGUSR1"), (11, "SIGSEGV"), (12, "SIGUSR2"),
    (13, "SIGPIPE"), (14, "SIGALRM"), (15, "SIGTERM"), (16, "SIGSTKFLT"), (17, "SIGCHLD"),
    (18, "SIGCONT"), (19, "SIGSTOP"), (20, "SIGTSTP"), (21, "SIGTTIN"), (22, "SIGTTOU"),
    (23, "SIGURG"), (24, "SIGXCPU"), (25, "SIGXFSZ"), (26, "SIGVTALRM"), (27, "SIGPROF"),
    (28, "SIGWINCH"), (29, "SIGIO"), (30, "SIGPWR"), (31, "SIGSYS"), (34, "SIGRTMIN"),
    (64, "SIGRTMAX")]

/-- A run that did not end well: the words of the command, its exit status, which is a
signal's number below zero if one ended the run, and the output as far as it was kept. -/
structure Exit where
  words : List String
  status : Int
  output : Option Bytes
  deriving DecidableEq, Repr

def Exit.message (exit : Exit) : String :=
  let command := "Command '" ++ Text.quotedList exit.words ++ "' "
  if exit.status < 0 then
    match signals.lookup exit.status.natAbs with
    | some name =>
      command ++ "died with <Signals." ++ name ++ ": " ++ toString exit.status.natAbs ++ ">."
    | none => command ++ "died with unknown signal " ++ toString exit.status.natAbs ++ "."
  else command ++ "returned non-zero exit status " ++ toString exit.status ++ "."

/-- How a run ends. -/
inductive Ending
  | returned (stdout : Bytes)
  | exited (exit : Exit)
  /-- The program could not be run, for the reason given. -/
  | failed (reason : String)
  deriving DecidableEq, Repr

/-- How a run ends that was let go on to its end: only the exit status of zero is a good end. -/
def Ending.ofStatus (words : List String) (status : Int) (stdout : Bytes) : Ending :=
  if status = 0 then .returned stdout else .exited ⟨words, status, some stdout⟩

/-- What happens when a command is launched in a world, given how many microseconds it may
last if that is bounded. -/
abbrev Launch (τ : Type) := (limit : Option Nat) → Command → StateM τ (CallContext.Work Ending)

end Command
end SignerPlugin
