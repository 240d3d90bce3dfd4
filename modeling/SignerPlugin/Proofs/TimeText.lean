import Mathlib.Algebra.Group.Nat.Defs
import Mathlib.Data.Option.Basic
import SignerPlugin.Time.MessageTime

/-! Reading the text of a time gives back that time, as long as its offset is of whole
minutes; and no reader of messages makes any other. -/

namespace SignerPlugin.Time

/-- The `width` low digits of a number to base ten. -/
def digitsOf : (width n : Nat) → List Char
  | 0, _ => []
  | width + 1, n => digitsOf width (n / 10) ++ [(n % 10).digitChar]

private theorem digitsOf_zero (width : Nat) : digitsOf width 0 = List.replicate width '0' := by
  induction width with
  | zero => rfl
  | succ width ih =>
    rw [digitsOf, Nat.zero_div, ih, List.replicate_succ']
    rfl

private theorem replicate_append_toDigits {width n : Nat} (small : n < 10 ^ (width + 1)) :
    List.replicate (width + 1 - (Nat.toDigits 10 n).length) '0' ++ Nat.toDigits 10 n =
      digitsOf (width + 1) n := by
  induction width generalizing n with
  | zero =>
    have single : n < 10 := by simpa using small
    rw [Nat.toDigits_of_lt_base single, digitsOf, Nat.mod_eq_of_lt single]
    rfl
  | succ width ih =>
    by_cases single : n < 10
    · rw [Nat.toDigits_of_lt_base single, digitsOf, Nat.mod_eq_of_lt single,
        Nat.div_eq_of_lt single, digitsOf_zero]
      rfl
    · have shorter : n / 10 < 10 ^ (width + 1) := by
        rw [Nat.pow_succ] at small
        omega
      rw [Nat.toDigits_of_base_le (by decide) (by omega), digitsOf, ← ih shorter,
        List.length_append, List.length_singleton, Nat.add_sub_add_right, List.append_assoc]

theorem padded_toList {width n : Nat} (small : n < 10 ^ (width + 1)) :
    (Timestamp.padded (width + 1) n).toList = digitsOf (width + 1) n := by
  have digits : (toString n).toList = Nat.toDigits 10 n := Nat.toList_repr
  rw [Timestamp.padded, String.toList_append, String.toList_ofList, ← String.length_toList, digits,
    replicate_append_toDigits small]

theorem padded_two {n : Nat} (small : n < 100) :
    (Timestamp.padded 2 n).toList = [(n / 10).digitChar, (n % 10).digitChar] := by
  rw [padded_toList (by simpa using small)]
  simp only [digitsOf, List.nil_append, List.cons_append,
    Nat.mod_eq_of_lt (show n / 10 < 10 by omega)]

private theorem padded_four {n : Nat} (small : n < 10000) :
    (Timestamp.padded 4 n).toList = [(n / 100 / 10).digitChar, (n / 100 % 10).digitChar,
      (n % 100 / 10).digitChar, (n % 100 % 10).digitChar] := by
  rw [padded_toList (by simpa using small)]
  simp only [digitsOf, List.nil_append, List.cons_append, Nat.div_div_eq_div_mul]
  rw [Nat.mod_eq_of_lt (show n / (10 * 10 * 10) < 10 by omega), show n / 10 % 10 =
    n % 100 / 10 by omega,
    show n % 10 = n % 100 % 10 by omega]

/-- Offsets that messages can write: of whole minutes. -/
def Offset.InMinutes (offset : Offset) : Prop := (minute : Int) ∣ offset.micros

instance (offset : Offset) : Decidable offset.InMinutes := by
  unfold Offset.InMinutes
  infer_instance

/-- A timestamp that messages write in full. -/
def Timestamp.InMinutes (t : Timestamp) : Prop := ∀ offset ∈ t.offset, offset.InMinutes

instance (t : Timestamp) : Decidable t.InMinutes := by
  unfold Timestamp.InMinutes
  infer_instance

theorem Calendar.daysInMonth_le (year month : Nat) : daysInMonth year month ≤ 31 := by
  unfold daysInMonth
  split
  · split <;> omega
  · split <;> omega

theorem Offset.utc_inMinutes : utc.InMinutes := ⟨0, rfl⟩

theorem tdiv_sixty (n : Int) :
    n.tdiv 60 = if n < 0 then -((n.natAbs / 60 : Nat) : Int) else (n.natAbs / 60 : Nat) := by
  cases n with
  | ofNat k => rfl
  | negSucc k => exact (if_pos (Int.negSucc_lt_zero k)).symm

private theorem Offset.natAbs_seconds_le (offset : Offset) : offset.seconds.natAbs ≤ 86400 := by
  have inside := offset.inside
  simp only [day, second] at inside
  unfold seconds
  simp only [second]
  split <;> omega

theorem Offset.ofMicros?_micros {micros : Int} {offset : Offset}
    (found : ofMicros? micros = some offset) :
    offset.micros = micros := by
  unfold ofMicros? at found
  split at found
  · cases found
    rfl
  · cases found

/-- The offset that the text of an offset says, which is cut to whole minutes. A whole day is
no offset. -/
def Offset.received? (offset : Offset) : Option Offset :=
  ofMicros? (offset.seconds.tdiv 60 * minute)

theorem Offset.received?_of_inMinutes {offset : Offset} (whole : offset.InMinutes) :
    offset.received? = some offset := by
  obtain ⟨count, same⟩ := whole
  have cut : offset.seconds.tdiv 60 * minute = offset.micros := by
    have seconds : offset.seconds = count * 60 := by
      unfold Offset.seconds
      simp only [same, minute, second]
      split <;> omega
    rw [seconds, Int.mul_tdiv_cancel count (by decide), same, Int.mul_comm]
  rw [received?, cut, ofMicros?, dif_pos offset.inside]

theorem Offset.received?_isSome {offset : Offset} :
    offset.received?.isSome ↔ offset.seconds.natAbs < 86400 := by
  have known (micros : Int) : (ofMicros? micros).isSome ↔ micros.natAbs < day := by
    unfold ofMicros?
    split <;> simp [*]
  rw [received?, known, tdiv_sixty]
  simp only [minute, second, day]
  split <;> omega

/-- The text of an offset says less than a minute too little or too much. -/
theorem Offset.received?_near {offset received : Offset}
    (found : offset.received? = some received) :
    (received.micros - offset.micros).natAbs < minute ∧
      (received.micros = offset.micros ↔ offset.InMinutes) := by
  have same := ofMicros?_micros found
  rw [tdiv_sixty] at same
  have rounded : (offset.seconds * second - offset.micros).natAbs * 2 ≤ second := by
    unfold seconds
    simp only [second]
    split <;> omega
  refine ⟨?_, ?_⟩
  · rw [same]
    simp only [minute, second] at rounded ⊢
    split <;> omega
  · constructor
    · intro kept
      rw [InMinutes, ← kept, ofMicros?_micros found]
      exact Int.dvd_mul_left _ _
    · intro whole
      rw [received?_of_inMinutes whole] at found
      rw [Option.some.inj found]

/-- The time that the text of a time says. -/
def Timestamp.received? (t : Timestamp) : Option Timestamp :=
  (t.offset.mapM Offset.received?).map fun offset => { t with offset }

theorem Timestamp.received?_of_inMinutes {t : Timestamp} (whole : t.InMinutes) :
    t.received? = some t := by
  have kept : t.offset.mapM Offset.received? = some t.offset := by
    cases known : t.offset with
    | none => rfl
    | some offset =>
      exact congrArg (Option.map some) (Offset.received?_of_inMinutes (whole offset known))
  rw [received?, kept]
  rfl

theorem Timestamp.mapM_received? {found : Option Timestamp} (whole : ∀ t ∈ found, t.InMinutes) :
    found.mapM received? = some found := by
  cases found with
  | none => rfl
  | some t => exact congrArg (Option.map some) (received?_of_inMinutes (whole t rfl))

theorem Timestamp.ofCivil?_offset {year month date hour minute second micro : Nat}
    {offset : Option Offset} {t : Timestamp}
    (found : ofCivil? year month date hour minute second micro offset = some t) :
    t.offset = offset := by
  unfold ofCivil? at found
  split at found
  · cases found
    rfl
  · cases found

private theorem Timestamp.ofClockMicros?_offset {micros : Nat} {offset : Option Offset}
    {t : Timestamp} (found : ofClockMicros? micros offset = some t) : t.offset = offset := by
  rw [ofClockMicros?] at found
  cases day : Calendar.dateOfDay (micros / Time.day) with
  | mk year rest =>
    rw [day] at found
    exact ofCivil?_offset found

theorem Timestamp.InMinutes.of_utc {t : Timestamp} (same : t.offset = some .utc) : t.InMinutes := by
  intro offset known
  obtain rfl : Offset.utc = offset := Option.some.inj (same.symm.trans known)
  exact Offset.utc_inMinutes

namespace Deadline

/-- The deadline that the text of a deadline says. -/
def received? (d : Deadline) : Option Deadline :=
  (d.timestamp.offset.get d.aware).received?.map fun offset =>
    ⟨{ d.timestamp with offset := some offset }, rfl⟩

theorem received?_timestamp (d : Deadline) :
    d.timestamp.received? = d.received?.map (·.timestamp) := by
  obtain ⟨⟨year, month, date, hour, minutes, seconds, micro, offset, civil⟩, aware⟩ := d
  cases offset with
  | none => cases aware
  | some offset =>
    simp only [Timestamp.received?, received?, Option.mapM_some, Option.get_some]
    cases offset.received? <;> rfl

theorem received?_isSome {d : Deadline} :
    d.received?.isSome ↔ (d.timestamp.offset.get d.aware).seconds.natAbs < 86400 := by
  rw [received?, Option.isSome_map, Offset.received?_isSome]

/-- The text of a deadline says less than a minute too little or too much. -/
theorem received?_near {d received : Deadline} (found : d.received? = some received) :
    (received.instant - d.instant).natAbs < minute ∧
      (received.instant = d.instant ↔ d.timestamp.InMinutes) := by
  obtain ⟨offset, told, rfl⟩ := Option.map_eq_some_iff.mp found
  obtain ⟨near, same⟩ := Offset.received?_near told
  have apart : (instant ⟨{ d.timestamp with offset := some offset }, rfl⟩) - d.instant =
      -(offset.micros - (d.timestamp.offset.get d.aware).micros) := by
    simp only [instant, Timestamp.clockMicros, Option.get_some]
    omega
  have whole : d.timestamp.InMinutes ↔ (d.timestamp.offset.get d.aware).InMinutes := by
    have known : d.timestamp.offset = some (d.timestamp.offset.get d.aware) :=
      (Option.some_get d.aware).symm
    constructor
    · exact fun all => all _ known
    · intro this other same
      rwa [Option.some.inj (same.symm.trans known)]
  rw [whole, ← same]
  refine ⟨by omega, by omega⟩

end Deadline

namespace MessageTime

theorem digit?_digitChar : ∀ n < 10, digit? n.digitChar = some n := by decide

theorem twoDigits?_padded {n : Nat} (small : n < 100) :
    twoDigits? (n / 10).digitChar (n % 10).digitChar = some n := by
  simp only [twoDigits?, digit?_digitChar (n / 10) (by omega), digit?_digitChar (n % 10) (by omega)]
  exact congrArg some (by omega)

theorem isDigit_digitsOf {width n : Nat} {c : Char} (member : c ∈ digitsOf width n) :
    c.isDigit := by
  induction width generalizing n with
  | zero => simp [digitsOf] at member
  | succ width ih =>
    rcases List.mem_append.mp member with front | last
    · exact ih front
    · have digits : ∀ n < 10, n.digitChar.isDigit := by decide
      rw [List.mem_singleton.mp last]
      exact digits (n % 10) (Nat.mod_lt n (by decide))

private theorem foldl_digitsOf {width n : Nat} (small : n < 10 ^ width) :
    (digitsOf width n).foldl (fun sum c => sum * 10 + (c.toNat - 48)) 0 = n := by
  induction width generalizing n with
  | zero =>
    have zero : n = 0 := by simpa using small
    subst zero
    rfl
  | succ width ih =>
    have value : ∀ n < 10, n.digitChar.toNat - 48 = n := by decide
    have shorter : n / 10 < 10 ^ width := by
      rw [Nat.pow_succ] at small
      omega
    rw [digitsOf, List.foldl_append, ih shorter, List.foldl_cons, List.foldl_nil,
      value (n % 10) (Nat.mod_lt n (by decide))]
    omega

theorem length_digitsOf (width n : Nat) : (digitsOf width n).length = width := by
  induction width generalizing n with
  | zero => rfl
  | succ width ih => simp [digitsOf, ih]

private theorem fractionMicros_padded {n : Nat} (small : n < 1000000) :
    fractionMicros (digitsOf 6 n) = n := by
  rw [fractionMicros, List.take_left' (length_digitsOf 6 n), foldl_digitsOf (by simpa using small)]

theorem dateOf?_padded {year month date : Nat} (inYears : year < 10000)
    (inYear : 1 ≤ month ∧ month ≤ 12) (inMonth : 1 ≤ date ∧ date ≤ Calendar.daysInMonth year month)
    (small : date < 100) (rest : List Char) :
    dateOf? ((Timestamp.padded 4 year).toList ++ '-' :: ((Timestamp.padded 2 month).toList ++
      '-' :: ((Timestamp.padded 2 date).toList ++ rest))) = some ((year, month, date), rest) := by
  have whole : year / 100 * 100 + year % 100 = year := by omega
  rw [padded_four inYears, padded_two (by omega), padded_two small]
  simp only [List.cons_append, List.nil_append, dateOf?,
    twoDigits?_padded (show year / 100 < 100 by omega),
      twoDigits?_padded (show year % 100 < 100 by omega),
    twoDigits?_padded (show month < 100 by omega), twoDigits?_padded small, bind,
      Option.bind, whole, inYear, inMonth, and_self, guard, if_true]
  rfl

/-- What may follow the seconds: neither a point nor a digit. -/
def ClosesSeconds (rest : List Char) : Prop :=
  ∀ c ∈ rest.head?, c ≠ '.' ∧ c ≠ ',' ∧ c.isDigit = false

private theorem secondsOf?_padded {seconds micro : Nat} (inMinute : seconds < 60)
    (inSecond : micro < 1000000) {rest : List Char} (closes : ClosesSeconds rest) :
    secondsOf? (':' :: ((Timestamp.padded 2 seconds).toList ++
      ((if micro = 0 then "" else "." ++ Timestamp.padded 6 micro).toList ++ rest))) =
      some ((seconds, micro), rest) := by
  rw [padded_two (by omega)]
  simp only [List.cons_append, List.nil_append, secondsOf?,
    twoDigits?_padded (show seconds < 100 by omega), bind, Option.bind, inMinute, guard, if_true]
  by_cases whole : micro = 0
  · simp only [whole, if_true, String.toList_empty, List.nil_append]
    cases rest with
    | nil => rfl
    | cons c rest =>
      obtain ⟨noPoint, noComma, _⟩ := closes c rfl
      simp [noPoint, noComma]
  · have stops : rest.takeWhile Char.isDigit = [] := by
      cases rest with
      | nil => rfl
      | cons c rest => simp [(closes c rfl).2.2]
    have stays : rest.dropWhile Char.isDigit = rest := by
      cases rest with
      | nil => rfl
      | cons c rest => simp [(closes c rfl).2.2]
    have point : ("." ++ Timestamp.padded 6 micro).toList = '.' :: digitsOf 6 micro := by
      rw [String.toList_append, padded_toList (by simpa using inSecond)]
      rfl
    have filled : (digitsOf 6 micro).isEmpty = false := by
      rw [List.isEmpty_eq_false_iff, ← List.length_pos_iff, length_digitsOf]
      decide
    rw [if_neg whole, point]
    simp only [List.cons_append, List.takeWhile_append_of_pos (fun _ => isDigit_digitsOf),
      List.dropWhile_append_of_pos (fun _ => isDigit_digitsOf), stops, stays, List.append_nil,
      fractionMicros_padded inSecond, filled]
    rfl

private theorem offsetText_toList {offset : Offset} (nonzero : offset.seconds ≠ 0) :
    (Timestamp.offsetText offset).toList =
      (if offset.seconds < 0 then '-' else '+') ::
        ((Timestamp.padded 2 (offset.seconds.natAbs / 60 / 60)).toList ++
        ':' :: (Timestamp.padded 2 (offset.seconds.natAbs / 60 % 60)).toList) := by
  simp only [Timestamp.offsetText, nonzero, if_false, String.toList_append]
  split <;> simp

/-- The text of an offset is read as what it says. -/
private theorem offsetOf?_offsetText (offset : Offset) :
    offsetOf? (Timestamp.offsetText offset).toList = offset.received?.map some := by
  have bounded := offset.natAbs_seconds_le
  by_cases none : offset.seconds = 0
  · have text : Timestamp.offsetText offset = "Z" := by simp [Timestamp.offsetText, none]
    rw [text, Offset.received?, none]
    rfl
  · have signed : (if (if offset.seconds < 0 then '-' else '+') = '+'
        then (((offset.seconds.natAbs / 60 / 60 : Nat) : Int) * 60 +
          (offset.seconds.natAbs / 60 % 60 : Nat)) * minute
        else -((((offset.seconds.natAbs / 60 / 60 : Nat) : Int) * 60 +
          (offset.seconds.natAbs / 60 % 60 : Nat)) *
          minute)) = offset.seconds.tdiv 60 * minute := by
      rw [tdiv_sixty]
      by_cases below : offset.seconds < 0
      · rw [if_pos below, if_neg (by decide), if_pos below]
        simp only [minute, second]
        omega
      · rw [if_neg below, if_pos rfl, if_neg below]
        simp only [minute, second]
        omega
    have shown : (if offset.seconds < 0 then '-' else '+') = '+' ∨
        (if offset.seconds < 0 then '-' else '+') = '-' ∨
        (if offset.seconds < 0 then '-' else '+') = '−' := by
      split <;> simp
    rw [offsetText_toList none, padded_two (by omega), padded_two (by omega)]
    simp only [List.cons_append, List.nil_append, offsetOf?, offsetMinutes?, shown, guard, if_true,
      twoDigits?_padded (show offset.seconds.natAbs / 60 / 60 < 100 by omega),
      twoDigits?_padded (show offset.seconds.natAbs / 60 % 60 < 100 by omega), bind,
        Option.bind, pure,
      show offset.seconds.natAbs / 60 % 60 < 60 by omega]
    simp only [signed]
    rw [Offset.received?]
    cases Offset.ofMicros? (offset.seconds.tdiv 60 * minute) <;> rfl

private theorem closesSeconds_offsetText (offset : Offset) :
    ClosesSeconds (Timestamp.offsetText offset).toList := by
  intro c first
  have start : c = 'Z' ∨ c = '-' ∨ c = '+' := by
    unfold Timestamp.offsetText at first
    simp only at first
    split at first
    · exact .inl (by simpa using first.symm)
    · split at first
      · exact .inr (.inl (by simpa using first.symm))
      · exact .inr (.inr (by simpa using first.symm))
  rcases start with rfl | rfl | rfl <;> decide

theorem toText_toList (t : Timestamp) : t.toText.toList =
    (Timestamp.padded 4 t.year).toList ++ '-' :: ((Timestamp.padded 2 t.month).toList ++
      '-' :: ((Timestamp.padded 2 t.date).toList ++ 'T' :: ((Timestamp.padded 2 t.hour).toList ++
        ':' :: ((Timestamp.padded 2 t.minute).toList ++ ':' ::
          ((Timestamp.padded 2 t.second).toList ++
          ((if t.micro = 0 then "" else "." ++ Timestamp.padded 6 t.micro).toList ++
            (t.offset.elim "" Timestamp.offsetText).toList)))))) := by
  rw [Timestamp.toText, Timestamp.clockText]
  simp only [String.toList_append, List.append_assoc]
  simp only [show "-".toList = ['-'] from rfl, show ":".toList = [':'] from rfl,
    show "T".toList = ['T'] from rfl, List.singleton_append]

private theorem clockOf?_toText (t : Timestamp) :
    clockOf? t.toText.toList = (t.offset.mapM Offset.received?).map fun zone =>
      ((t.year, t.month, t.date), (t.hour, t.minute, t.second, t.micro), zone) := by
  obtain ⟨_, inYears, fromMonth, toMonth, fromDate, toDate, inDay, inHour, inMinute,
    inSecond⟩ := t.civil
  have small : t.date < 100 := by
    have := Calendar.daysInMonth_le t.year t.month
    omega
  have zone : ClosesSeconds (t.offset.elim "" Timestamp.offsetText).toList ∧
      offsetOf? (t.offset.elim "" Timestamp.offsetText).toList =
        t.offset.mapM Offset.received? := by
    cases t.offset with
    | none => exact ⟨by simp [ClosesSeconds], rfl⟩
    | some offset => exact ⟨closesSeconds_offsetText offset, offsetOf?_offsetText offset⟩
  obtain ⟨closes, zone⟩ := zone
  have hours := twoDigits?_padded (show t.hour < 100 by omega)
  have minutes := twoDigits?_padded (show t.minute < 100 by omega)
  have date := dateOf?_padded (by omega) ⟨fromMonth, toMonth⟩ ⟨fromDate, toDate⟩ small
  have seconds := secondsOf?_padded inMinute inSecond closes
  rw [toText_toList]
  simp only [clockOf?, date, padded_two (show t.hour < 100 by omega),
    padded_two (show t.minute < 100 by omega), List.cons_append, List.nil_append, bind,
      Option.bind, hours, minutes,
    inDay, inHour, and_self, guard, true_or, if_true, seconds, zone, pure]
  cases t.offset.mapM Offset.received? <;> rfl

/-- Digits with a dash behind them are no number. -/
private theorem numberOf?_dash {digits : List Char} (digit : ∀ c ∈ digits, c.isDigit)
    (rest : List Char) (some : digits ≠ []) : numberOf? (digits ++ '-' :: rest) = none := by
  have stops : ('-' :: rest).takeWhile Char.isDigit = [] := rfl
  have stays : ('-' :: rest).dropWhile Char.isDigit = '-' :: rest := rfl
  unfold numberOf?
  split
  rename_i negative unsigned parted
  have plain : unsigned = digits ++ '-' :: rest := by
    cases digits with
    | nil => exact absurd rfl some
    | cons c digits =>
      have first := digit c (by simp)
      split at parted
      · rename_i same
        cases (List.cons.inj same).1
        simp at first
      · rename_i same
        cases (List.cons.inj same).1
        simp at first
      · exact (Prod.mk.inj parted).2.symm
  subst plain
  simp only [List.takeWhile_append_of_pos digit, List.dropWhile_append_of_pos digit, stops,
    stays, bind]
  exact Option.bind_eq_none_iff.mpr fun _ _ => rfl

/-- The text of a time is read as the time that it says. -/
theorem ofText_toText (t : Timestamp) : (ofText t.toText).toOption = t.received? := by
  obtain ⟨_, inYears, fromMonth, toMonth, fromDate, toDate, _⟩ := t.civil
  have small : t.date < 100 := by
    have := Calendar.daysInMonth_le t.year t.month
    omega
  rw [ofText, ofChars, clockOf?_toText, Timestamp.received?]
  cases t.offset.mapM Offset.received? with
  | some zone =>
    have civil : Timestamp.ofCivil? t.year t.month t.date t.hour t.minute t.second t.micro zone =
        some { t with offset := zone } := by
      rw [Timestamp.ofCivil?, dif_pos t.civil]
    rw [Option.map_some, Option.map_some, Option.some_or, Option.getD_some, ofClock, civil]
    rfl
  | none =>
    have date := dateOf?_padded (by omega) ⟨fromMonth, toMonth⟩ ⟨fromDate, toDate⟩ small
    have digits : (Timestamp.padded 4 t.year).toList = digitsOf 4 t.year := padded_toList (by omega)
    rw [toText_toList, ofDate, date, digits, numberOf?_dash (fun _ => isDigit_digitsOf) _
      (by simp [digitsOf])]
    rfl

private theorem offsetOf?_inMinutes {text : List Char} {found : Option Offset}
    (read : offsetOf? text = some found) :
    ∀ offset ∈ found, offset.InMinutes := by
  unfold offsetOf? at read
  split at read
  · cases read
    simp
  · cases read
    simpa using Offset.utc_inMinutes
  · cases read
    simpa using Offset.utc_inMinutes
  · simp only [bind, Option.bind_eq_some_iff, pure, Option.some.injEq] at read
    obtain ⟨_, _, hours, _, minutes, _, _, _, offset, known, rfl⟩ := read
    intro result same
    obtain rfl : offset = result := by simpa using same
    unfold Offset.InMinutes
    rw [Offset.ofMicros?_micros known]
    split
    · exact Int.dvd_mul_left _ _
    · exact Int.dvd_neg.mpr (Int.dvd_mul_left _ _)
  · cases read

private theorem clockOf?_inMinutes {text : List Char} {date : Nat × Nat × Nat}
    {clock : Nat × Nat × Nat × Nat} {zone : Option Offset}
    (read : clockOf? text = some (date, clock, zone)) :
    ∀ offset ∈ zone, offset.InMinutes := by
  simp only [clockOf?, bind, Option.bind_eq_some_iff] at read
  obtain ⟨⟨date, rest⟩, _, read⟩ := read
  simp only at read
  split at read
  · simp only [Option.bind_eq_some_iff, pure, Option.some.injEq] at read
    obtain ⟨_, _, hour, _, minutes, _, _, _, ⟨seconds, rest⟩, _, offset, found, same⟩ := read
    cases same
    exact offsetOf?_inMinutes found
  · cases read

theorem ofSeconds_offset {whole : Int} {micros : Nat} {t : Timestamp}
    (found : ofSeconds whole micros = .time t) :
    t.offset = some .utc := by
  unfold ofSeconds at found
  simp only at found
  split at found
  · cases found
  split at found
  · cases found
  split at found
  · rename_i known
    cases found
    exact Timestamp.ofClockMicros?_offset known
  · cases found

theorem ofCount_offset {count : Int} {t : Timestamp} (found : ofCount count = .time t) :
    t.offset = some .utc := by
  unfold ofCount at found
  split at found
  · exact ofSeconds_offset found
  · exact ofSeconds_offset found

theorem ofFraction_offset {x : Numeric.Binary64} {t : Timestamp} (found : ofFraction x = .time t) :
    t.offset = some .utc := by
  unfold ofFraction at found
  split at found
  · simp only at found
    split at found
    · split at found
      · exact ofSeconds_offset found
      · exact ofSeconds_offset found
    · cases found
  · cases found

theorem ofInt_inMinutes {n : Int} {t : Timestamp} (found : ofInt n = .ok t) : t.InMinutes := by
  unfold ofInt at found
  split at found
  · cases found
  · split at found
    · rename_i counted
      cases found
      exact .of_utc (ofCount_offset counted)
    · cases found

theorem ofBinary_inMinutes {x : Numeric.Binary64} {t : Timestamp} (found : ofBinary x = .ok t) :
    t.InMinutes := by
  unfold ofBinary at found
  split at found
  · rename_i counted
    cases found
    exact .of_utc (ofFraction_offset counted)
  · cases found

theorem inMinutes_of_civil {year month date hour minutes second micro : Nat}
    {zone : Option Offset} {t : Timestamp} (whole : ∀ offset ∈ zone, offset.InMinutes)
    (found : inCalendar (Timestamp.ofCivil? year month date hour minutes second micro zone) =
    .ok t) :
    t.InMinutes := by
  cases known : Timestamp.ofCivil? year month date hour minutes second micro zone with
  | none =>
    rw [known] at found
    cases found
  | some s =>
    rw [known] at found
    cases found
    intro offset same
    rw [Timestamp.ofCivil?_offset known] at same
    exact whole offset same

private theorem ofNumber_inMinutes {number : Int ⊕ Numeric.Binary64} {t : Timestamp}
    (found : ofNumber number = .ok t) :
    t.InMinutes := by
  unfold ofNumber at found
  split at found
  · rename_i counted
    cases found
    cases number with
    | inl n =>
      rw [Sum.elim_inl] at counted
      exact .of_utc (ofCount_offset counted)
    | inr x =>
      rw [Sum.elim_inr] at counted
      exact .of_utc (ofFraction_offset counted)
  · cases found
  · cases found

private theorem ofDate_inMinutes {text : List Char} {t : Timestamp} (found : ofDate text = .ok t) :
    t.InMinutes := by
  unfold ofDate at found
  split at found
  · exact inMinutes_of_civil (by simp) found
  · cases found

private theorem ofClock_inMinutes {text : List Char}
    {parts : (Nat × Nat × Nat) × (Nat × Nat × Nat × Nat) × Option Offset} {t : Timestamp}
    (read : clockOf? text = some parts) (found : ofClock parts = .ok t) : t.InMinutes := by
  obtain ⟨⟨year, month, date⟩, ⟨hour, minutes, seconds, micros⟩, zone⟩ := parts
  exact inMinutes_of_civil (clockOf?_inMinutes read) found

/-- Whatever text a time was read from, messages write that time in full. -/
theorem ofText_inMinutes {text : String} {t : Timestamp} (found : ofText text = .ok t) :
    t.InMinutes := by
  rw [ofText, ofChars] at found
  cases clock : clockOf? text.toList with
  | some parts =>
    rw [clock, Option.map_some, Option.some_or, Option.getD_some] at found
    exact ofClock_inMinutes clock found
  | none =>
    rw [clock, Option.map_none, Option.none_or] at found
    cases number : numberOf? text.toList with
    | some value =>
      rw [number, Option.map_some, Option.getD_some] at found
      exact ofNumber_inMinutes found
    | none =>
      rw [number, Option.map_none, Option.getD_none] at found
      exact ofDate_inMinutes found

end MessageTime
end SignerPlugin.Time
