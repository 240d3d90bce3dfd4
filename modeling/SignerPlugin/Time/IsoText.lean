import SignerPlugin.Text.Quoted
import SignerPlugin.Time.MessageTime
import SignerPlugin.Time.OutOfRange

/-! Timestamps in the notation of the calendar standard: a date by month and day or by week,
any one character, a time of day as far as it is given, and an offset; with hyphens and colons
or without. -/

namespace SignerPlugin.Time.IsoText

/-- Why a text is no timestamp. -/
inductive Fault
  | malformed (text : String)
  | outOfRange (part : OutOfRange)
  deriving DecidableEq, Repr

def Fault.message : Fault → String
  | .malformed text => "Invalid isoformat string: " ++ Text.quoted text
  | .outOfRange part => part.message

private def digitsValue (digits : List Char) : Nat :=
  digits.foldl (fun sum c => sum * 10 + (c.toNat - 48)) 0

/-- The number that exactly so many digits stand for, and the text behind them. -/
def digits? (count : Nat) (text : List Char) : Option (Nat × List Char) :=
  let digits := (text.take count).takeWhile Char.isDigit
  if digits.length = count then some (digitsValue digits, text.drop count) else none

private def isDigitAt (text : List Char) (index : Nat) : Bool := text[index]?.any Char.isDigit

/-- How long the date is that a text begins with. Where a week is followed by a hyphen, a
digit and another digit, the first digit belongs to the time; where a week is followed by
digits, they belong to the time in pairs. -/
def dateLength (text : List Char) : Nat :=
  if text.length = 7 then 7
  else if text[4]? = some '-' then
    if text[5]? ≠ some 'W' then 10
    else if text[8]? = some '-' && !isDigitAt text 10 then 10
    else 8
  else if text[4]? ≠ some 'W' then 8
  else
    let stop := 7 + ((text.drop 7).takeWhile Char.isDigit).length
    if stop < 9 then stop else if stop % 2 = 0 then 7 else 8

/-- The day of the week of the first day of a year; the week begins with zero. -/
private def firstWeekday (year : Nat) : Nat := Calendar.dayNumber year 1 1 % 7

/-- The number of weeks of a year. -/
def weeksIn (year : Nat) : Nat :=
  let first := firstWeekday year
  if first = 3 || (first = 2 && Calendar.isLeap year) then 53 else 52

/-- The date of a day of a week. The first week of a year has its first Thursday. The year
zero has weeks, but they have no months. -/
def dateOfWeek? (year week day : Nat) : Option (Nat × Nat × Nat) :=
  if week = 0 || weeksIn year < week || day = 0 || 7 < day then none
  else if year = 0 then some (1, 0, 1)
  else
    let first := firstWeekday year
    let monday : Int := (Calendar.dayNumber year 1 1 : Int) - first + (if 3 < first then 7 else 0)
    some (Calendar.dateOfDay (monday + (week - 1) * 7 + (day - 1)).toNat)

/-- Year, month and day, in so many characters. -/
def dateOf? (length : Nat) (text : List Char) : Option (Nat × Nat × Nat) := do
  let (year, rest) ← digits? 4 text
  let dashed := rest.head? = some '-'
  let afterDash (rest : List Char) : Option (List Char) :=
    if !dashed then some rest else if rest.head? = some '-' then some (rest.drop 1) else none
  let rest ← afterDash rest
  match rest with
  | 'W' :: rest => do
    let (week, rest) ← digits? 2 rest
    if text.length - rest.length < length then
      let (day, _) ← digits? 1 (← afterDash rest)
      dateOfWeek? year week day
    else dateOfWeek? year week 1
  | rest => do
    let (month, rest) ← digits? 2 rest
    let (day, rest) ← digits? 2 (← afterDash rest)
    guard (text.length - rest.length = length)
    return (year, month, day)

/-- A time of day, or an offset without its sign. -/
structure Clock where
  hour : Nat := 0
  minute : Nat := 0
  second : Nat := 0
  micro : Nat := 0

/-- The clock with a fraction of a second, and whether something is left of the text. Of more
than six digits the others do not count. -/
def withFraction? (clock : Clock) (text : List Char) : Option (Clock × Bool) := do
  let (micro, rest) ← digits? (min 6 text.length) text
  return ({ clock with micro := micro * Nat.pow 10 (6 - text.length) },
    !(rest.dropWhile Char.isDigit).isEmpty)

/-- Hours, minutes and seconds as far as they are given, and a fraction behind any of them,
with whether something is left of the text. A last character behind a pair of digits may be
anything in the basic alphabet. -/
def clockOf? (text : List Char) : Option (Clock × Bool) := do
  let (hour, rest) ← digits? 2 text
  let colons := rest.head? = some ':'
  -- The text of the next pair, or else of the fraction.
  let behind (rest : List Char) : Option (List Char ⊕ List Char) :=
    if colons && rest.head? = some ':' then some (.inl (rest.drop 1))
    else if rest.head?.any fun c => c = '.' || c = ',' then some (.inr (rest.drop 1))
    else if colons then none else some (.inl rest)
  let atEnd (rest : List Char) := rest.length ≤ 1 && rest.all fun c => c.toNat < 128
  if atEnd rest then return ({ hour }, !rest.isEmpty)
  match ← behind rest with
  | .inr fraction => withFraction? { hour } fraction
  | .inl rest =>
    let (minute, rest) ← digits? 2 rest
    if atEnd rest then return ({ hour, minute }, !rest.isEmpty)
    match ← behind rest with
    | .inr fraction => withFraction? { hour, minute } fraction
    | .inl rest =>
      let (second, rest) ← digits? 2 rest
      if atEnd rest then return ({ hour, minute, second }, !rest.isEmpty)
      match ← behind rest with
      | .inr fraction | .inl fraction => withFraction? { hour, minute, second } fraction

/-- The offset that stands behind a time, in microseconds; nothing when there is none. An
offset of no whole second is none at all from universal time. -/
def offsetOf? : List Char → Option (Option Int)
  | [] => some none
  | ['Z'] => some (some 0)
  | 'Z' :: _ => none
  | sign :: text => do
    let (clock, left) ← clockOf? text
    guard !left
    let seconds : Int := (clock.hour * 60 + clock.minute) * 60 + clock.second
    let size := if seconds = 0 then 0 else seconds * 1000000 + clock.micro
    return some (if sign = '-' then -size else size)

/-- The time of day and the offset that a text is. -/
def timeOf? (text : List Char) : Option (Clock × Option Int) := do
  let shown := text.takeWhile fun c => c ≠ 'Z' && c ≠ '+' && c ≠ '-'
  let (clock, left) ← clockOf? shown
  let offset ← offsetOf? (text.drop shown.length)
  guard (offset.isSome || !left)
  return (clock, offset)

/-- Date, time of day and offset of a text. -/
def parts? (text : List Char) : Option ((Nat × Nat × Nat) × Clock × Option Int) := do
  guard (7 ≤ text.length)
  let length := dateLength text
  let date ← dateOf? length text
  match text.drop length with
  | [] => return (date, {}, none)
  | _ :: time => return (date, ← timeOf? time)

/-- The first part that lies outside the calendar. -/
def outside? (date : Nat × Nat × Nat) (clock : Clock) (offset : Option Int) : Option OutOfRange :=
  let (year, month, day) := date
  match offset.filter fun micros => Time.day ≤ micros.natAbs with
  | some micros => some (.offset micros)
  | none =>
    if year = 0 || 9999 < year then some (.year year)
    else if month = 0 || 12 < month then some .month
    else if day = 0 || Calendar.daysInMonth year month < day then some .day
    else if 24 ≤ clock.hour then some .hour
    else if 60 ≤ clock.minute then some .minute
    else if 60 ≤ clock.second then some .second
    else none

end IsoText

/-- The timestamp that a text stands for. -/
def Timestamp.ofIsoText (text : String) : Except IsoText.Fault Timestamp :=
  match IsoText.parts? text.toList with
  | none => .error (.malformed text)
  | some (date, clock, offset) =>
    match IsoText.outside? date clock offset with
    | some part => .error (.outOfRange part)
    | none =>
      let (year, month, day) := date
      match Timestamp.ofCivil? year month day clock.hour clock.minute clock.second clock.micro
          (offset.bind Offset.ofMicros?) with
      | some timestamp => .ok timestamp
      | none => .error (.malformed text)

end SignerPlugin.Time
