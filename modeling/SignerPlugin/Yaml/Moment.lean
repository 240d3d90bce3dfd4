import SignerPlugin.Time.Calendar
import SignerPlugin.Yaml.Character
import SignerPlugin.Yaml.Fault

/-! Dates and times as they stand in YAML texts. No setting is one, so it matters only which
texts they are, which of those name no date, and which name the same. -/

namespace SignerPlugin.Yaml

open Text (CodeText)
open Time (OutOfRange)

structure Moment where
  year : Nat
  month : Nat
  day : Nat
  /-- Hour, minute and second. -/
  time : Option (Nat × Nat × Nat) := none
  micro : Nat := 0
  /-- The offset of the clock, in seconds. -/
  offset : Option Int := none
  deriving Repr

namespace Moment

private def number (digits : List Char) : Nat :=
  digits.foldl (fun sum c => sum * 10 + (c.toNat - 48)) 0

/-- A number of so many digits, and the text behind it. -/
def digits? (least most : Nat) (text : List Char) : Option (Nat × List Char) :=
  let digits := (text.take most).takeWhile Char.isDigit
  if digits.length < least then none else some (number digits, text.drop digits.length)

/-- The text behind a character that it begins with. -/
def after? (c : Char) : List Char → Option (List Char)
  | d :: rest => if d = c then some rest else none
  | [] => none

/-- An offset that is all of the text, or nothing. -/
def offset? : List Char → Option (Option Int)
  | [] => some none
  | ['Z'] => some (some 0)
  | sign :: rest => do
    guard (sign = '+' || sign = '-')
    let (hours, rest) ← digits? 1 2 rest
    let minutes ← match rest with
      | [] => pure 0
      | rest => do
        let (minutes, rest) ← digits? 2 2 (← after? ':' rest)
        guard rest.isEmpty
        pure minutes
    let size : Int := hours * 3600 + minutes * 60
    return some (if sign = '-' then -size else size)

/-- The moment that is written in a text. -/
def read? (text : List Char) : Option Moment := do
  let (year, rest) ← digits? 4 4 text
  let (month, rest) ← digits? 1 2 (← after? '-' rest)
  let (day, rest) ← digits? 1 2 (← after? '-' rest)
  match rest with
  | [] => return { year, month, day }
  | c :: rest =>
    guard (c = 'T' || c = 't' || isBlank c)
    let rest := if isBlank c then rest.dropWhile isBlank else rest
    let (hour, rest) ← digits? 1 2 rest
    let (minute, rest) ← digits? 2 2 (← after? ':' rest)
    let (second, rest) ← digits? 2 2 (← after? ':' rest)
    let (micro, rest) := match rest with
      | '.' :: rest =>
        let digits := rest.takeWhile Char.isDigit
        (number ((digits ++ List.replicate 6 '0').take 6), rest.drop digits.length)
      | rest => (0, rest)
    let offset ← match rest.dropWhile isBlank with
      | [] => if rest.isEmpty then pure none else none
      | rest => offset? rest
    return { year, month, day, time := some (hour, minute, second), micro, offset }

/-- Whether a plain scalar is a moment. A date alone must have all its digits. -/
def isMoment (text : List Char) : Bool :=
  match read? text with
  | some moment => moment.time.isSome || text.length = 10
  | none => false

/-- The first part of a moment that lies outside the calendar. -/
def outside? (moment : Moment) : Option OutOfRange :=
  let (hour, minute, second) := moment.time.getD (0, 0, 0)
  let offset := moment.offset.getD 0
  if 86400 ≤ offset.natAbs then some (.offset (offset * 1000000))
  else if moment.year = 0 then some (.year 0)
  else if moment.month = 0 || 12 < moment.month then some .month
  else if moment.day = 0 || Time.Calendar.daysInMonth moment.year moment.month <
    moment.day then some .day
  else if 24 ≤ hour then some .hour
  else if 60 ≤ minute then some .minute
  else if 60 ≤ second then some .second
  else none

/-- A name that moments share if they are the same: days, times of day without an offset, and
instants are so only among themselves. -/
def label (moment : Moment) : String :=
  let date := Time.Calendar.dayNumber moment.year moment.month moment.day
  match moment.time with
  | none => "day " ++ toString date
  | some (hour, minute, second) =>
    let micros : Int := (((date * 24 + hour) * 60 + minute) * 60 + second) * 1000000 + moment.micro
    match moment.offset with
    | none => "time " ++ toString micros
    | some offset => "instant " ++ toString (micros - offset * 1000000)

/-- The label of the moment of the calendar that a text names. -/
def readLabel (text : CodeText) : Except Fault String :=
  match text.chars?.bind fun chars => read? (withoutLastBreak chars) with
  | none => .error .notATime
  | some moment => match moment.outside? with
    | some part => .error (.outOfRange part)
    | none => .ok moment.label

end Moment
end SignerPlugin.Yaml
