/-! The Gregorian calendar, run back to year 1, and the count of days in it. -/

namespace SignerPlugin.Time.Calendar

def isLeap (year : Nat) : Bool :=
  year % 4 = 0 && (year % 100 ≠ 0 || year % 400 = 0)

/-- The number of days of a month; none has more than 31. -/
def daysInMonth (year month : Nat) : Nat :=
  if month = 2 then (if isLeap year then 29 else 28)
  else if month = 4 ∨ month = 6 ∨ month = 9 ∨ month = 11 then 30
  else 31

/-- The days from the first day of year 1 to the first day of a year. -/
def daysBeforeYear (year : Nat) : Nat :=
  let years := year - 1
  years * 365 + years / 4 - years / 100 + years / 400

/-- The days of a year before its `month`-th month. -/
def daysBeforeMonth (year : Nat) : (month : Nat) → Nat
  | 0 => 0
  | 1 => 0
  | month + 2 => daysBeforeMonth year (month + 1) + daysInMonth year (month + 1)

/-- The days from the first day of year 1 to a date. -/
def dayNumber (year month day : Nat) : Nat :=
  daysBeforeYear year + daysBeforeMonth year month + (day - 1)

/-- The year that a day lies in: the average length of a year gives it up to one. -/
def yearOfDay (day : Nat) : Nat :=
  let guess := day * 400 / 146097 + 1
  if daysBeforeYear (guess + 1) ≤ day then guess + 1
  else if day < daysBeforeYear guess then guess - 1
  else guess

/-- The month and the day of the month, for a day counted from zero inside a year. `left` bounds the
months still to be tried. -/
private def monthAndDay (year : Nat) : (left month day : Nat) → Nat × Nat
  | 0, month, day => (month, day + 1)
  | left + 1, month, day =>
    let length := daysInMonth year month
    if day < length then (month, day + 1) else monthAndDay year left (month + 1) (day - length)

/-- Year, month and day of the month of a day. -/
def dateOfDay (day : Nat) : Nat × Nat × Nat :=
  let year := yearOfDay day
  (year, monthAndDay year 11 1 (day - daysBeforeYear year))

end SignerPlugin.Time.Calendar
