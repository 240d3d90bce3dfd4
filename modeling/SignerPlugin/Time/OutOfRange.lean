/-! Dates and times that are written well and lie outside the calendar. -/

namespace SignerPlugin.Time

/-- The part of a date or time that lies outside the calendar. -/
inductive OutOfRange
  | year (n : Nat)
  | month
  | day
  | hour
  | minute
  | second
  /-- An offset of a day or more, in microseconds. -/
  | offset (micros : Int)
  deriving DecidableEq, Repr

/-- A span of time in days, seconds and microseconds, where it has any. -/
private def spanText (micros : Int) : String :=
  let part (name : String) (n : Int) : List String :=
    if n = 0 then [] else [name ++ "=" ++ toString n]
  "datetime.timedelta(" ++ ", ".intercalate
    (part "days" (Int.fdiv micros 86400000000) ++ part "seconds"
      (Int.fmod micros 86400000000 / 1000000) ++
      part "microseconds" (Int.fmod micros 1000000)) ++ ")"

def OutOfRange.message : OutOfRange → String
  | .year n => "year " ++ toString n ++ " is out of range"
  | .month => "month must be in 1..12"
  | .day => "day is out of range for month"
  | .hour => "hour must be in 0..23"
  | .minute => "minute must be in 0..59"
  | .second => "second must be in 0..59"
  | .offset micros =>
    "offset must be a timedelta strictly between -timedelta(hours=24) and timedelta(hours=24), not " ++
      spanText micros ++ "."

end SignerPlugin.Time
