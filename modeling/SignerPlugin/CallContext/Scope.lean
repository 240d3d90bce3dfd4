import SignerPlugin.CallContext

/-! Many runs under one context at a time. A run awaits one task; it wakes when the task has ended,
when a signal tells it that the context was cancelled, when the deadline passes, or when its own
caller is cancelled. A run that wakes before its task has ended cancels the task and waits for that
before it ends itself. The events may come in any order that their conditions allow. -/

namespace SignerPlugin.CallContext

variable {α : Type}

/-- How far a task has come. -/
inductive Task (α : Type)
  | idle
  | running
  | finished (outcome : α)
  /-- Cancelled, after it had begun or before. -/
  | cancelled (begun : Bool)
  deriving DecidableEq, Repr

def Task.hasEnded : Task α → Bool
  | .finished _ => true
  | .cancelled _ => true
  | _ => false

/-- Whether anything of the task was ever done. -/
def Task.begun : Task α → Bool
  | .idle => false
  | .cancelled begun => begun
  | _ => true

/-- What a run ends with. -/
inductive RunEnd (α : Type)
  /-- The outcome of its task. -/
  | outcome (value : α)
  /-- The reason why the context is done. -/
  | error (reason : ContextError)
  /-- The cancellation of its caller. -/
  | abandoned
  deriving DecidableEq, Repr

inductive Phase (α : Type)
  | waiting
  /-- The caller was cancelled during the wait: the task has been told to stop, and the run
  waits for that. -/
  | withdrawing
  /-- The context was done: the task has been told to stop, and the run waits for that. -/
  | stopping
  | ended (ending : RunEnd α)
  deriving DecidableEq, Repr

/-- Whether the run can be signalled. One whose caller was cancelled can be until its task has
ended. -/
def Phase.waits : Phase α → Bool
  | .waiting => true
  | .withdrawing => true
  | _ => false

/-- Whether the task has been told to stop. -/
def Phase.stops : Phase α → Bool
  | .withdrawing => true
  | .stopping => true
  | _ => false

structure Run (α : Type) where
  task : Task α := .idle
  phase : Phase α := .waiting
  /-- Whether the cancelled context has sent its wake-up signal. -/
  signalled : Bool := false
  /-- Whether the caller of the run has been cancelled. -/
  abandoned : Bool := false
  deriving DecidableEq, Repr

/-- A context with the runs under it, in the order in which they were entered; `waiters` lists
the runs that wait for a signal. -/
structure Scope (α : Type) where
  context : CallContext
  now : Instant
  runs : List (Run α) := []
  waiters : List Nat := []
  deriving DecidableEq, Repr

inductive Event (α : Type)
  | enter
  | start (run : Nat)
  | finish (run : Nat) (outcome : α)
  | cancel
  | tick (duration : Nat)
  | cancelCaller (run : Nat)
  | wake (run : Nat)
  | stop (run : Nat)
  | settle (run : Nat)
  deriving DecidableEq, Repr

namespace Scope

/-- Puts a run in its place; one that waits no longer gets no signal. -/
def setRun (scope : Scope α) (i : Nat) (run : Run α) : Scope α :=
  { scope with
    runs := scope.runs.set i run
    waiters := if run.phase.waits then scope.waiters else scope.waiters.erase i }

/-- A new run: it is refused when the context is done. -/
def enter (scope : Scope α) : Scope α :=
  match scope.context.err? scope.now with
  | some reason => { scope with runs := scope.runs ++ [{ phase := .ended (.error reason) }] }
  | none =>
    { scope with
      runs := scope.runs ++ [{}]
      waiters := scope.waiters ++ [scope.runs.length] }

/-- Signals the run in a place, if it waits for that. -/
def signal (scope : Scope α) (i : Nat) (run : Run α) : Run α :=
  if scope.waiters.contains i then { run with signalled := true } else run

/-- Cancels the context, and signals every waiting run unless that has been done before. -/
def cancel (scope : Scope α) : Scope α :=
  if scope.context.cancelled then scope
  else { scope with context := scope.context.cancel, runs := scope.runs.mapIdx scope.signal }

/-- Whether the deadline has passed. -/
def isOver (scope : Scope α) : Bool :=
  match scope.context.remaining? scope.now with
  | some left => left ≤ 0
  | none => false

/-- Wakes a waiting run, if anything has come to wake it. -/
def wake (scope : Scope α) (run : Run α) : Option (Run α) :=
  if run.abandoned then some { run with phase := .withdrawing }
  else match run.task with
    | .finished outcome => some { run with phase := .ended (.outcome outcome) }
    | _ => if run.signalled || scope.isOver then some { run with phase := .stopping } else none

/-- The reason that a run ends with when its task was stopped. -/
def reason (scope : Scope α) : ContextError :=
  (scope.context.err? scope.now).getD .deadlineExceeded

/-- A run after an event that is about it. Nothing when the event cannot happen now. -/
def turn (scope : Scope α) (run : Run α) : Event α → Option (Run α)
  | .start _ => match run.task, run.phase with
    | .idle, .waiting => some { run with task := .running }
    | _, _ => none
  | .finish _ outcome => match run.task with
    | .running => some { run with task := .finished outcome }
    | _ => none
  | .cancelCaller _ => match run.phase with
    | .ended _ => none
    | _ => some { run with abandoned := true }
  | .wake _ => match run.phase with
    | .waiting => scope.wake run
    | _ => none
  | .stop _ =>
    if run.phase.stops && !run.task.hasEnded then some
      { run with task := .cancelled run.task.begun } else none
  | .settle _ =>
    if run.task.hasEnded then
      match run.phase with
      | .withdrawing => some { run with phase := .ended .abandoned }
      | .stopping =>
        some { run with phase := .ended (if run.abandoned then .abandoned else .error
        scope.reason) }
      | _ => none
    else none
  | _ => none

/-- The scope after an event. Nothing when the event cannot happen now. -/
def step (scope : Scope α) (event : Event α) : Option (Scope α) :=
  let about (i : Nat) := do
    let run ← scope.runs[i]?
    return scope.setRun i (← scope.turn run event)
  match event with
  | .enter => some scope.enter
  | .cancel => some scope.cancel
  | .tick duration => some { scope with now := scope.now + duration }
  | .start i => about i
  | .finish i _ => about i
  | .cancelCaller i => about i
  | .wake i => about i
  | .stop i => about i
  | .settle i => about i

/-- The scope after several events; those that cannot happen when their turn comes are passed
over. -/
def play (scope : Scope α) (events : List (Event α)) : Scope α :=
  events.foldl (fun scope event => (scope.step event).getD scope) scope

end Scope
end SignerPlugin.CallContext
