import SignerPlugin.Text.CodePoint

/-! Values that have been checked: either a value, or every issue that was found with it.
Checks that stand side by side are all made, so that one report shows all their issues in
order. -/

namespace SignerPlugin.Schema

open Text (CodeText)

/-- One step from a value into a part of it. -/
inductive Step
  | member (name : String)
  | item (index : Nat)
  deriving DecidableEq, Repr

/-- What is wrong with a value. -/
inductive Cause
  | invalidJson
  | missing
  | notAModel
  | notAString
  | notUnicode
  | notBytes
  | notAList
  | notABool
  | unclearBool
  | notAMember
  | wideNumber
  | notATime
  | wideTime (value : Int)
  | unclearTime
  | notADate
  | refused (reason : CodeText)
  deriving DecidableEq, Repr

/-- The word that stands for a cause in reports. -/
def Cause.code : Cause → String
  | .invalidJson => "json_invalid"
  | .missing => "missing"
  | .notAModel => "model_type"
  | .notAString => "string_type"
  | .notUnicode => "string_unicode"
  | .notBytes => "bytes_type"
  | .notAList => "list_type"
  | .notABool => "bool_type"
  | .unclearBool => "bool_parsing"
  | .notAMember => "enum"
  | .wideNumber => "int_parsing_size"
  | .notATime => "datetime_type"
  | .wideTime _ => "datetime_type"
  | .unclearTime => "datetime_parsing"
  | .notADate => "datetime_from_date_parsing"
  | .refused _ => "value_error"

/-- The sentence that goes with a cause, where the value itself gave a reason. -/
def Cause.reason? : Cause → Option String
  | .refused reason => some ("Value error, " ++ reason.shown)
  | _ => none

/-- The cause seen in a value that comes from no text: an integer too wide for a time is taken
for the floating-point number nearest to it, which no calendar holds, unless there is none. -/
def Cause.ofValue : Cause → Cause
  | .wideTime n => if n.natAbs < Nat.pow 2 1024 then .unclearTime else .notATime
  | cause => cause

/-- Something wrong at a place. -/
structure Issue where
  place : List Step
  cause : Cause
  deriving DecidableEq, Repr

/-- A value, or all the issues found with it. -/
inductive Checked (α : Type)
  | ok (value : α)
  | bad (issues : List Issue)
  deriving Repr

namespace Checked

variable {α β γ : Type}

def map (f : α → β) : Checked α → Checked β
  | .ok value => .ok (f value)
  | .bad issues => .bad issues

/-- Both checks are made; the issues of the first come first. -/
def both (f : Checked (α → β)) (x : Checked α) : Checked β :=
  match f, x with
  | .ok f, .ok value => .ok (f value)
  | .ok _, .bad issues => .bad issues
  | .bad issues, .ok _ => .bad issues
  | .bad front, .bad back => .bad (front ++ back)

/-- The second check is made only of a value that passed the first. -/
def andThen (x : Checked α) (f : α → Checked β) : Checked β :=
  match x with
  | .ok value => f value
  | .bad issues => .bad issues

/-- The same outcome, seen from one step further out. -/
def within (step : Step) : Checked α → Checked α
  | .ok value => .ok value
  | .bad issues => .bad (issues.map fun issue => { issue with place := step :: issue.place })

/-- The same outcome with causes renamed. -/
def mapCause (f : Cause → Cause) : Checked α → Checked α
  | .ok value => .ok value
  | .bad issues => .bad (issues.map fun issue => { issue with cause := f issue.cause })

/-- An issue with the value itself. -/
def fail (cause : Cause) : Checked α := .bad [⟨[], cause⟩]

def toOption : Checked α → Option α
  | .ok value => some value
  | .bad _ => none

/-- All items are checked; each issue is placed at its item. -/
def items (check : α → Checked β) : (index : Nat) → List α → Checked (List β)
  | _, [] => .ok []
  | index, x :: rest =>
    both (((check x).within (.item index)).map List.cons) (items check (index + 1) rest)

end Checked

/-- The issues found with a value of a named kind. -/
structure Report where
  title : String
  issues : List Issue
  deriving DecidableEq, Repr

namespace Report

/-- The first reason in a report that cannot be written, because surrogates stand in it. -/
def unwritable? (report : Report) : Option CodeText :=
  report.issues.findSome? fun issue => match issue.cause with
    | .refused reason => if reason.chars?.isNone then some reason else none
    | _ => none

/-- How many issues there are, and with what. -/
def headline (report : Report) : String :=
  let count := report.issues.length
  toString count ++ (if count = 1 then " validation error for " else " validation errors for ") ++
    report.title

private def stepText : Step → String
  | .member name => name
  | .item index => toString index

private def issueText (issue : Issue) : String :=
  let place := ".".intercalate (issue.place.map stepText)
  let reason := (issue.cause.reason?.map (· ++ " ")).getD ""
  (if issue.place.isEmpty then "" else place ++ "\n") ++ "  " ++ reason ++ "[" ++
    issue.cause.code ++ "]"

/-- The headline, and then each issue with its place. -/
def message (report : Report) : String :=
  "\n".intercalate (report.headline :: report.issues.map issueText)

end Report
end SignerPlugin.Schema
