/-!
Moments: a reading of a wall clock to the microsecond, with the clock's distance from UTC when it is
known. A reading without one is taken as UTC. The calendar is the proleptic Gregorian one from year
1 to 9999, with dates as counts of days from 1970-01-01 and back, and months counted from March, so
that the leap day ends the year.
-/
namespace Curation

structure Date where
  year : Int
  month : Nat
  day : Nat
  deriving DecidableEq, Repr

namespace Date

def isLeap (year : Int) : Bool := (year % 4 == 0 && year % 100 != 0) || year % 400 == 0

def daysInMonth (year : Int) (month : Nat) : Nat :=
  match month with
  | 2 => if isLeap year then 29 else 28
  | 4 | 6 | 9 | 11 => 30
  | _ => 31

def isValid (date : Date) : Bool :=
  1 ≤ date.month && date.month ≤ 12 && 1 ≤ date.day && date.day ≤ daysInMonth date.year date.month

/-- Days from 1970-01-01 to a date. -/
def toDays (date : Date) : Int :=
  let y := if date.month ≤ 2 then date.year - 1 else date.year
  let era := y / 400
  let yearOfEra := y % 400
  let fromMarch : Int := if 2 < date.month then date.month - 3 else date.month + 9
  let dayOfYear := (153 * fromMarch + 2) / 5 + date.day - 1
  let dayOfEra := yearOfEra * 365 + yearOfEra / 4 - yearOfEra / 100 + dayOfYear
  era * 146097 + dayOfEra - 719468

/-- The date so many days from 1970-01-01. -/
def ofDays (days : Int) : Date :=
  let z := days + 719468
  let era := z / 146097
  let dayOfEra := z % 146097
  let yearOfEra := (dayOfEra - dayOfEra / 1460 + dayOfEra / 36524 - dayOfEra / 146096) / 365
  let dayOfYear := dayOfEra - (365 * yearOfEra + yearOfEra / 4 - yearOfEra / 100)
  let fromMarch := (5 * dayOfYear + 2) / 153
  let day := dayOfYear - (153 * fromMarch + 2) / 5 + 1
  let month := if fromMarch < 10 then fromMarch + 3 else fromMarch - 9
  let year := yearOfEra + era * 400 + (if month ≤ 2 then 1 else 0)
  ⟨year, month.toNat, day.toNat⟩

end Date

/-- A wall clock reading in microseconds from 1970-01-01, and the clock's offset in seconds. -/
structure Moment where
  micros : Int
  offset : Option Int
  deriving DecidableEq, Repr, Inhabited

namespace Moment

def microsPerSecond : Int := 1000000

def microsPerDay : Int := 86400 * microsPerSecond

/-- The first microsecond of the calendar. -/
def earliest : Int := Date.toDays ⟨1, 1, 1⟩ * microsPerDay

/-- The first microsecond behind the calendar. -/
def afterLatest : Int := Date.toDays ⟨10000, 1, 1⟩ * microsPerDay

def inCalendar (micros : Int) : Bool := earliest ≤ micros && micros < afterLatest

/-- The moment that services count from: the start of 2024 in UTC. -/
def epoch : Moment := ⟨Date.toDays ⟨2024, 1, 1⟩ * microsPerDay, some 0⟩

/-- A moment so many microseconds later; none outside the calendar. -/
def later? (moment : Moment) (micros : Int) : Option Moment :=
  let sum := moment.micros + micros
  if inCalendar sum then some { moment with micros := sum } else none

/-- A reading without an offset taken as UTC. -/
def asUtc (moment : Moment) : Moment :=
  match moment.offset with
  | none => { moment with offset := some 0 }
  | some _ => moment

/-- A reading as a table keeps it, without its offset. -/
def stored (moment : Moment) : Moment := { moment with offset := none }

/-- The moment in microseconds of UTC. -/
def utcMicros (moment : Moment) : Int :=
  moment.micros - moment.offset.getD 0 * microsPerSecond

def pad (width n : Nat) : String :=
  let digits := toString n
  String.ofList (List.replicate (width - digits.length) '0') ++ digits

/-- Date and time joined by a letter, with six digits of a second when there are any. -/
def clockText (moment : Moment) : String :=
  let date := Date.ofDays (moment.micros / microsPerDay)
  let time := (moment.micros % microsPerDay).toNat
  let seconds := time / 1000000
  let fraction := time % 1000000
  let day := s!"{pad 4 date.year.toNat}-{pad 2 date.month}-{pad 2 date.day}"
  let clock := s!"{pad 2 (seconds / 3600)}:{pad 2 (seconds / 60 % 60)}:{pad 2 (seconds % 60)}"
  day ++ "T" ++ clock ++ (if fraction = 0 then "" else "." ++ pad 6 fraction)

/-- An offset as sign, hours and minutes, and seconds when there are any. -/
def offsetText (offset : Int) : String :=
  let sign := if offset < 0 then "-" else "+"
  let size := offset.natAbs
  let seconds := if size % 60 = 0 then "" else s!":{pad 2 (size % 60)}"
  s!"{sign}{pad 2 (size / 3600)}:{pad 2 (size / 60 % 60)}{seconds}"

/-- The text of a moment, with a numeric offset. -/
def isoText (moment : Moment) : String :=
  match moment.offset with
  | none => moment.clockText
  | some offset => moment.clockText ++ offsetText offset

/-- The text of a moment in answers: `Z` marks UTC. -/
def answerText (moment : Moment) : String :=
  match moment.offset with
  | none => moment.clockText
  | some 0 => moment.clockText ++ "Z"
  | some offset => moment.clockText ++ offsetText offset

end Moment

end Curation
