import SignerPlugin.Json
import SignerPlugin.Numeric.Shortest
import SignerPlugin.Text.Quoted

/-! Failures of work that is done elsewhere. A failure has a kind and arguments, and the text
that is reported of it is made of these. -/

namespace SignerPlugin

namespace Json

mutual

/-- How a value shows inside of another one: texts stand between quotes. -/
def shown : Json → String
  | .null => "None"
  | .bool value => if value then "True" else "False"
  | .int value => toString value
  | .decimal mantissa exponent => (Numeric.Binary64.ofDecimal mantissa exponent).text
  | .nan => Numeric.Binary64.nan.text
  | .infinite negative => (Numeric.Binary64.infinite negative).text
  | .str text => Text.quoted text
  | .arr items => "[" ++ ", ".intercalate (shownItems items) ++ "]"
  | .obj members => "\x7b" ++ ", ".intercalate (shownMembers members) ++ "\x7d"

def shownItems : List Json → List String
  | [] => []
  | item :: rest => shown item :: shownItems rest

def shownMembers : List (String × Json) → List String
  | [] => []
  | (name, value) :: rest => (Text.quoted name ++ ": " ++ shown value) :: shownMembers rest

end

/-- How a value shows by itself: a text is its own text. -/
def plainly : Json → String
  | .str text => text
  | value => shown value

end Json

/-- A failure of some kind, with what it was told about its reasons. -/
structure Failure where
  kind : String
  arguments : List Json

namespace Failure

/-- The kinds of failures that the system reports by a number. -/
def systemKinds : List String := ["OSError", "FileNotFoundError", "PermissionError", "TimeoutError"]

/-- The kinds that go with numbers of failures. -/
def kindsByNumber : List (Int × String) :=
  [(1, "PermissionError"), (13, "PermissionError"), (2, "FileNotFoundError"),
    (17, "FileExistsError"), (20, "NotADirectoryError"), (21, "IsADirectoryError"),
    (4, "InterruptedError"), (32, "BrokenPipeError"), (108, "BrokenPipeError"),
    (103, "ConnectionAbortedError"), (111, "ConnectionRefusedError"),
    (104, "ConnectionResetError"), (110, "TimeoutError"), (11, "BlockingIOError"),
    (114, "BlockingIOError"), (115, "BlockingIOError"), (10, "ChildProcessError"),
    (3, "ProcessLookupError")]

/-- The number that a value equals, if it is a whole one. -/
private def number? : Json → Option Int
  | .int n => some n
  | .bool value => some (if value then 1 else 0)
  | .decimal mantissa exponent => (Numeric.Binary64.ofDecimal mantissa exponent).toInt?
  | _ => none

/-- The files that a failure of the system names: the last of three arguments after the text,
if there are as many, is a second one. -/
private def filesText : List Json → String
  | [] | .null :: _ => ""
  | file :: _ :: other :: _ =>
    ": " ++ file.shown ++ (if other matches .null then "" else " -> " ++ other.shown)
  | file :: _ => ": " ++ file.shown

/-- Whether the arguments are a number, a text and at most three more, as the system gives them. -/
private def isNumbered (failure : Failure) : Bool :=
  systemKinds.contains failure.kind && 2 ≤ failure.arguments.length && failure.arguments.length ≤ 5

/-- The kind of a failure, made more precise by its number where the kind is the general one. -/
def label (failure : Failure) : String :=
  if failure.isNumbered && failure.kind = "OSError" then
    ((failure.arguments.head?.bind number?).bind fun n => kindsByNumber.lookup n).getD failure.kind
  else failure.kind

/-- The text of a failure: that of its only argument, or the list of its arguments. A missing
key shows between quotes. -/
def message (failure : Failure) : String :=
  match failure.arguments with
  | [] => ""
  | [argument] => if failure.kind = "KeyError" then argument.shown else argument.plainly
  | number :: text :: more =>
    if failure.isNumbered then "[Errno " ++ number.plainly ++ "] " ++ text.plainly ++ filesText more
    else "(" ++ ", ".intercalate (failure.arguments.map Json.shown) ++ ")"

end Failure
end SignerPlugin
