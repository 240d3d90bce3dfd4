import SignerPlugin.Json.Reader
import SignerPlugin.Numeric.Binary64
import SignerPlugin.Numeric.Word
import SignerPlugin.Time.Timestamp

/-! How messages write a point in time. A text is a date and a time of day, a plain date, or a
number; a number counts seconds from the start of 1970, or milliseconds when it is beyond 2 ·
10 ^ 10. -/

namespace SignerPlugin.Time.MessageTime

open Numeric

/-- Why a value is no point in time. -/
inductive Fault
  /-- Neither text nor number. -/
  | notATime
  /-- An integer that 64 bits do not hold. -/
  | wideInteger (value : Int)
  /-- A number outside the calendar, or the year zero. -/
  | outsideCalendar
  /-- A text in none of the forms. -/
  | notADate
  deriving DecidableEq, Repr

/-- The start of 1970, in seconds from the start of year 1. -/
def epoch : Int := 62135596800

/-- The first second of the year zero and the last of the year 9999, counted from 1970. -/
def firstSecond : Int := -62167219200
def lastSecond : Int := 253402300799

/-- Above this many seconds a number is taken for milliseconds. -/
def secondsBound : Nat := 20000000000

/-- The outcome of a count of seconds: a time, the year zero, or a second beyond all years. -/
inductive Counted
  | time (t : Timestamp)
  | yearZero
  | beyond

/-- The time that lies so many seconds and microseconds after 1970. -/
def ofSeconds (whole : Int) (micros : Nat) : Counted :=
  let seconds := whole + micros / second
  if seconds < firstSecond ∨ lastSecond < seconds then .beyond
  else if seconds + epoch < 0 then .yearZero
  else
    match Timestamp.ofClockMicros? ((seconds + epoch).toNat * second + micros % second)
        (some .utc) with
    | some t => .time t
    | none => .beyond

/-- The time that lies a count of seconds, or else of milliseconds, after 1970. -/
def ofCount (count : Int) : Counted :=
  if secondsBound < count.natAbs then ofSeconds (count / 1000) ((count % 1000).toNat * 1000)
  else ofSeconds count 0

/-- The time that an integer stands for. -/
def ofInt (n : Int) : Except Fault Timestamp :=
  if !fits64 n then .error (.wideInteger n)
  else match ofCount n with
    | .time t => .ok t
    | _ => .error .outsideCalendar

/-- What a number has above its floor, in so many parts of one, rounded. -/
def partsAbove (x : Binary64) (floor : Int) (parts : Nat) : Option Int :=
  ((x.add (.finite (-floor) 0)).mul (.finite parts 0)).round?

/-- The outcome of a number with a fraction, of seconds or else of milliseconds. -/
def ofFraction (x : Binary64) : Counted :=
  match x.ratio?, x.floor? with
  | some (num, den), some whole =>
    let inMillis := secondsBound * den < num.natAbs
    match partsAbove x whole (if inMillis then 1000 else second) with
    | some micros =>
      if inMillis then ofSeconds (whole / 1000) ((whole % 1000).toNat * 1000 + micros.toNat)
      else ofSeconds whole micros.toNat
    | none => .beyond
  | _, _ => .beyond

/-- The time that a number with a fraction stands for. -/
def ofBinary (x : Binary64) : Except Fault Timestamp :=
  match ofFraction x with
  | .time t => .ok t
  | _ => .error .outsideCalendar

def digit? (c : Char) : Option Nat :=
  if '0' ≤ c && c ≤ '9' then some (c.toNat - 48) else none

def twoDigits? (a b : Char) : Option Nat := do
  return (← digit? a) * 10 + (← digit? b)

/-- A date `YYYY-MM-DD` and the characters after it. The year zero counts as a leap year. -/
def dateOf? : List Char → Option ((Nat × Nat × Nat) × List Char)
  | a :: b :: c :: d :: '-' :: e :: f :: '-' :: g :: h :: rest => do
    let year := (← twoDigits? a b) * 100 + (← twoDigits? c d)
    let month ← twoDigits? e f
    let date ← twoDigits? g h
    guard (1 ≤ month ∧ month ≤ 12 ∧ 1 ≤ date ∧ date ≤ Calendar.daysInMonth year month)
    return ((year, month, date), rest)
  | _ => none

/-- The fraction of a second, cut to microseconds, that digits after the point stand for. -/
def fractionMicros (digits : List Char) : Nat :=
  ((digits ++ List.replicate 6 '0').take 6).foldl (fun sum c => sum * 10 + (c.toNat - 48)) 0

/-- Seconds and microseconds after a colon, if there is one, and the characters after them. -/
def secondsOf? : List Char → Option ((Nat × Nat) × List Char)
  | ':' :: a :: b :: rest => do
    let seconds ← twoDigits? a b
    guard (seconds < 60)
    match rest with
    | point :: after =>
      if point = '.' || point = ',' then
        let digits := after.takeWhile Char.isDigit
        guard !digits.isEmpty
        return ((seconds, fractionMicros digits), after.dropWhile Char.isDigit)
      else return ((seconds, 0), rest)
    | [] => return ((seconds, 0), [])
  | ':' :: _ => none
  | rest => some ((0, 0), rest)

/-- The minutes of an offset, behind a colon or not. -/
def offsetMinutes? : List Char → Option Nat
  | [':', c, d] => twoDigits? c d
  | [c, d] => twoDigits? c d
  | _ => none

/-- An offset that fills the input: `Z`, hours and minutes, or none at all. -/
def offsetOf? : List Char → Option (Option Offset)
  | [] => some none
  | ['Z'] => some (some .utc)
  | ['z'] => some (some .utc)
  | sign :: a :: b :: rest => do
    guard (sign = '+' ∨ sign = '-' ∨ sign = '−')
    let hours ← twoDigits? a b
    let minutes ← offsetMinutes? rest
    guard (minutes < 60)
    let size : Int := (hours * 60 + minutes) * minute
    let offset ← Offset.ofMicros? (if sign = '+' then size else -size)
    return some offset
  | _ => none

/-- The parts of a text that is a date, a separator, a time of day and maybe an offset. -/
def clockOf? (text : List Char) :
    Option ((Nat × Nat × Nat) × (Nat × Nat × Nat × Nat) × Option Offset) := do
  let (date, rest) ← dateOf? text
  match rest with
  | separator :: a :: b :: ':' :: c :: d :: rest =>
    guard (separator = 'T' ∨ separator = 't' ∨ separator = ' ' ∨ separator = '_')
    let hour ← twoDigits? a b
    let minutes ← twoDigits? c d
    guard (hour < 24 ∧ minutes < 60)
    let ((seconds, micros), rest) ← secondsOf? rest
    let offset ← offsetOf? rest
    return (date, (hour, minutes, seconds, micros), offset)
  | _ => none

/-- A text that is a number: an integer of 64 bits, or a number with a point in it. The point
must come before any exponent, and what stands before it must be no wider than an integer. -/
def numberOf? (text : List Char) : Option (Int ⊕ Binary64) := do
  let (negative, unsigned) := match text with
    | '-' :: rest => (true, rest)
    | '+' :: rest => (false, rest)
    | rest => (false, rest)
  let whole := unsigned.takeWhile Char.isDigit
  let sign (n : Nat) : Int := if negative then -(n : Int) else n
  guard (fits64 (Json.digitsValue whole))
  match unsigned.dropWhile Char.isDigit with
  | [] =>
    guard !whole.isEmpty
    return .inl (sign (Json.digitsValue whole))
  | '.' :: rest =>
    let fraction := rest.takeWhile Char.isDigit
    guard !(whole ++ fraction).isEmpty
    let (exponent, rest) := Json.readExponent (rest.dropWhile Char.isDigit)
    guard rest.isEmpty
    return .inr (.ofDecimal (sign (Json.digitsValue (whole ++ fraction)))
      (exponent.getD 0 - fraction.length))
  | _ => none

/-- A time that the calendar may not have. -/
def inCalendar (found : Option Timestamp) : Except Fault Timestamp :=
  found.elim (.error .outsideCalendar) .ok

/-- The time that a number in a text stands for. -/
def ofNumber (number : Int ⊕ Binary64) : Except Fault Timestamp :=
  match number.elim ofCount ofFraction with
  | .time t => .ok t
  | .yearZero => .error .outsideCalendar
  | .beyond => .error .notADate

/-- The time at which a plain date begins. -/
def ofDate (text : List Char) : Except Fault Timestamp :=
  match dateOf? text with
  | some ((year, month, date), []) => inCalendar (Timestamp.ofCivil? year month date 0 0 0 0 none)
  | _ => .error .notADate

/-- The time that a date, a time of day and an offset stand for. -/
def ofClock : (Nat × Nat × Nat) × (Nat × Nat × Nat × Nat) × Option Offset → Except Fault Timestamp
  | ((year, month, date), (hour, minutes, seconds, micros), offset) =>
    inCalendar (Timestamp.ofCivil? year month date hour minutes seconds micros offset)

/-- The time that a text stands for: a date with a time of day, or else a number, or else a
plain date. -/
def ofChars (text : List Char) : Except Fault Timestamp :=
  (((clockOf? text).map ofClock).or ((numberOf? text).map ofNumber)).getD (ofDate text)

def ofText (text : String) : Except Fault Timestamp := ofChars text.toList

end SignerPlugin.Time.MessageTime
