import SignerPlugin.Time.Calendar

/-! Points in time as they are written: a date, a time of day to the microsecond, and the offset of
the clock from universal time where it is known. Two of them are the same when they name the same
instant; one without offset names no instant and is the same only as another without. -/

namespace SignerPlugin.Time

/-- Microseconds of a second, a minute and a day. -/
def second : Nat := 1000000
def minute : Nat := 60 * second
def day : Nat := 86400 * second

/-- How far a local clock is ahead of universal time, in microseconds: less than a day. -/
structure Offset where
  micros : Int
  inside : micros.natAbs < day
  deriving DecidableEq, Repr

namespace Offset

def utc : Offset := ⟨0, by decide⟩

def ofMicros? (micros : Int) : Option Offset :=
  if inside : micros.natAbs < day then some ⟨micros, inside⟩ else none

/-- The offset in whole seconds, a half second away from zero. -/
def seconds (offset : Offset) : Int :=
  let size : Int := ((offset.micros.natAbs + second / 2) / second : Nat)
  if offset.micros < 0 then -size else size

end Offset

/-- Whether numbers are a date of the years 1 to 9999 and a time of day. -/
def IsCivil (year month date hour minute second micro : Nat) : Prop :=
  1 ≤ year ∧ year ≤ 9999 ∧ 1 ≤ month ∧ month ≤ 12 ∧
  1 ≤ date ∧ date ≤ Calendar.daysInMonth year month ∧
  hour < 24 ∧ minute < 60 ∧ second < 60 ∧ micro < 1000000

instance (year month date hour minute second micro : Nat) :
    Decidable (IsCivil year month date hour minute second micro) := by
  unfold IsCivil; infer_instance

/-- A date and a time of day, with the offset of the clock that shows it if that is known. -/
structure Timestamp where
  year : Nat
  month : Nat
  date : Nat
  hour : Nat
  minute : Nat
  second : Nat
  micro : Nat
  offset : Option Offset
  civil : IsCivil year month date hour minute second micro
  deriving DecidableEq, Repr

namespace Timestamp

/-- A timestamp from its numbers, if they are a date and a time of day. -/
def ofCivil? (year month date hour minute second micro : Nat) (offset : Option Offset) :
    Option Timestamp :=
  if civil : IsCivil year month date hour minute second micro then
    some ⟨year, month, date, hour, minute, second, micro, offset, civil⟩
  else none

/-- Microseconds from the start of year 1 to what the clock shows. -/
def clockMicros (t : Timestamp) : Nat :=
  ((((Calendar.dayNumber t.year t.month t.date * 24 + t.hour) * 60 + t.minute) * 60) + t.second)
    * Time.second + t.micro

/-- A timestamp from what the clock shows. -/
def ofClockMicros? (micros : Nat) (offset : Option Offset) : Option Timestamp :=
  let (year, month, date) := Calendar.dateOfDay (micros / Time.day)
  let rest := micros % Time.day
  ofCivil? year month date (rest / (60 * Time.minute)) (rest / Time.minute % 60)
    (rest / Time.second % 60) (rest % Time.second) offset

/-- The instant named, in microseconds from the start of year 1 in universal time. -/
def instant? (t : Timestamp) : Option Int :=
  t.offset.map fun offset => (t.clockMicros : Int) - offset.micros

/-- Whether two timestamps are the same: the same instant, or the same clock time where no offset is
known. -/
def same (s t : Timestamp) : Bool :=
  match s.instant?, t.instant? with
  | some a, some b => a = b
  | none, none => s.clockMicros = t.clockMicros
  | _, _ => false

instance : BEq Timestamp := ⟨same⟩

/-- The number with exactly `width` digits, as far as it has no more. -/
def padded (width n : Nat) : String :=
  let digits := toString n
  String.ofList (List.replicate (width - digits.length) '0') ++ digits

/-- Date and time of day; the fraction has six digits, or is left out when it is zero. -/
def clockText (t : Timestamp) : String :=
  padded 4 t.year ++ "-" ++ padded 2 t.month ++ "-" ++ padded 2 t.date ++ "T" ++
    padded 2 t.hour ++ ":" ++ padded 2 t.minute ++ ":" ++ padded 2 t.second ++
    (if t.micro = 0 then "" else "." ++ padded 6 t.micro)

/-- An offset in messages: `Z` for none in seconds, else hours and minutes, cut toward zero. -/
def offsetText (offset : Offset) : String :=
  let seconds := offset.seconds
  if seconds = 0 then "Z"
  else
    let minutes := seconds.natAbs / 60
    (if seconds < 0 then "-" else "+") ++ padded 2 (minutes / 60) ++ ":" ++ padded 2 (minutes % 60)

/-- The text in messages, with the offset in whole minutes. -/
def toText (t : Timestamp) : String := t.clockText ++ t.offset.elim "" offsetText

/-- The text with the offset in full: hours and minutes, and as much more as is not zero. -/
def toIsoText (t : Timestamp) : String :=
  t.clockText ++ match t.offset with
    | none => ""
    | some offset =>
      let size := offset.micros.natAbs
      let seconds := size / Time.second
      let micros := size % Time.second
      (if offset.micros < 0 then "-" else "+") ++ padded 2 (seconds / 3600) ++ ":" ++
        padded 2 (seconds / 60 % 60) ++
        (if seconds % 60 = 0 ∧ micros = 0 then "" else ":" ++ padded 2 (seconds % 60)) ++
        (if micros = 0 then "" else "." ++ padded 6 micros)

end Timestamp

/-- A timestamp whose instant is known. -/
structure Deadline where
  timestamp : Timestamp
  aware : timestamp.offset.isSome
  deriving DecidableEq, Repr

namespace Deadline

def ofTimestamp? (t : Timestamp) : Option Deadline :=
  if aware : t.offset.isSome then some ⟨t, aware⟩ else none

/-- The instant, in microseconds from the start of year 1 in universal time. -/
def instant (d : Deadline) : Int :=
  (d.timestamp.clockMicros : Int) - (d.timestamp.offset.get d.aware).micros

end Deadline
end SignerPlugin.Time
