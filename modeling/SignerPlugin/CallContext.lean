import SignerPlugin.Time.Timestamp

/-! Call contexts: a deadline and a cancellation flag that bound the work done for one call. A
context that is done says why; a cancelled one says so even when its deadline has passed
too. -/

namespace SignerPlugin

/-- Instants are counted in microseconds from the start of year 1 in universal time. -/
abbrev Instant := Int

/-- Why a context is done. -/
inductive ContextError
  | canceled
  | deadlineExceeded
  deriving DecidableEq, Repr

def ContextError.message : ContextError → String
  | .canceled => "context canceled"
  | .deadlineExceeded => "context deadline exceeded"

/-- A deadline that names no instant. -/
structure UnawareDeadline where
  timestamp : Time.Timestamp
  deriving Repr

def UnawareDeadline.message (_ : UnawareDeadline) : String := "deadline must be timezone-aware"

/-- Why there is no deadline at some distance from now. -/
inductive TimeoutFault
  /-- The days between are more than a word of 32 bits counts. -/
  | uncounted
  | tooManyDays (days : Int)
  | outsideCalendar
  deriving DecidableEq, Repr

def TimeoutFault.message : TimeoutFault → String
  | .uncounted => "Python int too large to convert to C int"
  | .tooManyDays days => "days=" ++ toString days ++ "; must have magnitude <= 999999999"
  | .outsideCalendar => "date value out of range"

/-- The word for the kind of the error. -/
def ContextError.label : ContextError → String
  | .canceled => "canceled"
  | .deadlineExceeded => "deadline exceeded"

structure CallContext where
  deadline : Option Time.Deadline := none
  cancelled : Bool := false
  deriving DecidableEq, Repr

namespace CallContext

/-- The context that is never done by itself. -/
def background : CallContext := {}

def cancel (ctx : CallContext) : CallContext := { ctx with cancelled := true }

/-- The context with a deadline, unless that names no instant. -/
def ofTimestamp (deadline : Option Time.Timestamp) : Except UnawareDeadline CallContext :=
  match deadline with
  | none => .ok background
  | some t => match Time.Deadline.ofTimestamp? t with
    | some d => .ok { deadline := some d }
    | none => .error ⟨t⟩

/-- The context whose deadline is so many microseconds from now, in universal time. -/
def withTimeout (now : Instant) (micros : Int) : Except TimeoutFault CallContext :=
  let days := Int.fdiv micros Time.day
  if days < -0x80000000 ∨ 0x7fffffff < days then .error .uncounted
  else if 999999999 < days.natAbs then .error (.tooManyDays days)
  else if now + micros < 0 then .error .outsideCalendar
  else match (Time.Timestamp.ofClockMicros? (now + micros).toNat (some .utc)).bind
    Time.Deadline.ofTimestamp? with
    | some deadline => .ok { deadline := some deadline }
    | none => .error .outsideCalendar

/-- The time left until the deadline, if there is one. -/
def remaining? (ctx : CallContext) (now : Instant) : Option Int :=
  ctx.deadline.map fun d => d.instant - now

/-- Why the context is done, if it is. -/
def err? (ctx : CallContext) (now : Instant) : Option ContextError :=
  if ctx.cancelled then some .canceled
  else match ctx.remaining? now with
    | some left => if left ≤ 0 then some .deadlineExceeded else none
    | none => none

@[simp]
theorem err?_cancel (ctx : CallContext) (now : Instant) :
    ctx.cancel.err? now = some .canceled := rfl

@[simp]
theorem err?_background (now : Instant) : background.err? now = none := rfl

/-- Work done under a context, as it goes when nothing stops it: whether it cancels the
context as it starts, how long it lasts, and what comes of it. Somebody else may cancel the
context some time after the start. -/
structure Work (α : Type) where
  cancels : Bool := false
  cancelledAfter : Option Nat := none
  lasts : Nat := 0
  outcome : α
  deriving Repr

namespace Work

variable {α : Type}

/-- How long after its start the context is cancelled, if it is. -/
def cancellation? (work : Work α) : Option Nat :=
  if work.cancels then some 0 else work.cancelledAfter

/-- The context as it is some time after the start. -/
def contextAfter (work : Work α) (ctx : CallContext) (elapsed : Nat) : CallContext :=
  match work.cancellation? with
  | some wait => if wait ≤ elapsed then ctx.cancel else ctx
  | none => ctx

/-- How long the work goes on: to its end, or until the context is done. -/
def duration (work : Work α) (ctx : CallContext) (now : Instant) : Nat :=
  let untilDeadline := (ctx.remaining? now).map Int.toNat
  (work.cancellation?.toList ++ untilDeadline.toList).foldl min work.lasts

end Work

/-- What became of work under a context. -/
inductive Verdict (α : Type)
  /-- It was not begun, since the context was done. -/
  | refused (error : ContextError)
  /-- It was stopped when the context was done. -/
  | stopped (error : ContextError)
  | ended (outcome : α)
  deriving Repr

/-- The outcome that the caller sees. -/
def Verdict.result {α : Type} : Verdict α → Except ContextError α
  | .refused error => .error error
  | .stopped error => .error error
  | .ended outcome => .ok outcome

/-- Does work under the context, starting now. Work that has ended when the context is done
keeps its outcome, even when it cancels the context itself; other work is stopped as soon as
the context is done. Answers the context and the instant afterwards. -/
def perform {α : Type} (ctx : CallContext) (now : Instant) (work : Work α) :
    Verdict α × CallContext × Instant :=
  match ctx.err? now with
  | some error => (.refused error, ctx, now)
  | none =>
    let elapsed := work.duration ctx now
    let after := work.contextAfter ctx elapsed
    if elapsed = work.lasts then (.ended work.outcome, after, now + elapsed)
    else (.stopped ((after.err? (now + elapsed)).getD .deadlineExceeded), after, now + elapsed)

end CallContext
end SignerPlugin
