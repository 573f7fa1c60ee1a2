import Curation.Time.Reading

/-!
Moments in the forms of ISO 8601: a calendar date or a date by weeks, with or without hyphens;
behind it any one character and a time, with or without colons; and behind that an offset. Times may
stop after the hours or the minutes. What may follow a time and a missing offset differ: nothing may
follow the former, while a stray separator before an offset does no harm.
-/
namespace Curation

namespace Date

/-- The Monday of a year's first week, which holds the year's first Thursday. -/
def firstMonday (year : Int) : Int :=
  let newYear := toDays ⟨year, 1, 1⟩
  let weekday := (newYear + 3) % 7
  if 3 < weekday then newYear - weekday + 7 else newYear - weekday

/-- The day of a week of a year; weeks and their days count from 1. -/
def ofWeek? (year : Int) (week day : Nat) : Option Int :=
  let start := firstMonday year + 7 * ((week : Int) - 1)
  if 1 ≤ week ∧ start < firstMonday (year + 1) ∧ 1 ≤ day ∧ day ≤ 7 then some (start + day - 1)
  else none

end Date

namespace Moment

/-- How long the date at the front of a text is. Where a hyphen may be part of the date or stand
before the time, two digits behind it make it stand before the time. -/
def dateLength (text : List Char) : Nat :=
  match text.drop 4 with
  | '-' :: 'W' :: _ :: _ :: '-' :: _ :: c :: _ => if isDigit c then 8 else 10
  | '-' :: 'W' :: _ :: _ :: '-' :: _ => 10
  | '-' :: 'W' :: _ => 8
  | '-' :: _ => 10
  | 'W' :: rest =>
    let length := 7 + ((rest.drop 2).takeWhile isDigit).length
    if length < 9 then length else if length % 2 = 0 then 7 else 8
  | _ => 8

/-- The day that a date names. -/
def readDay? (text : List Char) : Option Int := do
  let (year, rest) ← takeNumber? 4 text
  if year = 0 then none
  let hyphen (text : List Char) : Option (List Char) :=
    match text with
    | '-' :: rest => some rest
    | _ => none
  let hyphened := (hyphen rest).isSome
  let skip (text : List Char) : Option (List Char) := if hyphened then hyphen text else some text
  match ← skip rest with
  | 'W' :: rest =>
    let (week, rest) ← takeNumber? 2 rest
    if rest.isEmpty then Date.ofWeek? year week 1
    else
      let (day, _) ← takeNumber? 1 (← skip rest)
      Date.ofWeek? year week day
  | rest =>
    let (month, rest) ← takeNumber? 2 rest
    let (day, _) ← takeNumber? 2 (← skip rest)
    let date : Date := ⟨year, month, day⟩
    if date.isValid then some date.toDays else none

/-- The fraction of a second that ends a time, in microseconds. Up to six digits count, more are
dropped; the flag tells whether the text ends with them. -/
def readRest? (text : List Char) : Option (Nat × Bool) := do
  let count := min 6 text.length
  let (fraction, rest) ← takeNumber? count text
  some (fraction * Nat.pow 10 (6 - count), (rest.dropWhile isDigit).isEmpty)

/-- Up to three counts of two digits and a fraction. Either all counts have colons between them or
none has. The flag tells whether that is the whole text. -/
def readCounts? (colons : Option Bool) : Nat → List Char → Option (List Nat × Nat × Bool)
  | 0, text => do
    let (fraction, whole) ← readRest? text
    some ([], fraction, whole)
  | left + 1, text => do
    let (count, rest) ← takeNumber? 2 text
    match rest with
    | [] => some ([count], 0, true)
    | [_] => some ([count], 0, false)
    | c :: more =>
      let colons := colons.getD (c == ':')
      if c = '.' ∨ c = ',' then
        let (fraction, whole) ← readRest? more
        some ([count], fraction, whole)
      else
        let rest ← if c = ':' ∧ colons then some more else if colons then none else some rest
        let (counts, fraction, whole) ← readCounts? (some colons) left rest
        some (count :: counts, fraction, whole)

/-- Hours, minutes and seconds in seconds. -/
def secondsOf (counts : List Nat) : Nat :=
  3600 * counts.headD 0 + 60 * (counts.drop 1).headD 0 + (counts.drop 2).headD 0

/-- An offset of less than a day, with its sign; fractions of its seconds do not count. -/
def readSigned? (sign : Char) (text : List Char) : Option Int := do
  let (counts, _, whole) ← readCounts? none 3 text
  let size : Int := secondsOf counts
  if whole ∧ size < 86400 then some (if sign = '-' then -size else size) else none

/-- A time of day in microseconds, and its offset. -/
def readTime? (text : List Char) : Option (Int × Option Int) := do
  let isSign (c : Char) : Bool := c == '+' || c == '-' || c == 'Z'
  let (counts, fraction, whole) ← readCounts? none 3 (text.takeWhile fun c => !isSign c)
  if 23 < counts.headD 0 ∨ (counts.drop 1).any (59 < ·) then none
  else
    let micros : Int := (secondsOf counts * 1000000 + fraction : Nat)
    match text.dropWhile fun c => !isSign c with
    | [] => if whole then some (micros, none) else none
    | 'Z' :: rest => if rest.isEmpty then some (micros, some 0) else none
    | sign :: rest => do
      let offset ← readSigned? sign rest
      some (micros, some offset)

/-- A moment in any of the forms. -/
def readIso? (text : List Char) : Option Moment := do
  let length := dateLength text
  let day ← readDay? (text.take length)
  let (time, offset) ← match text.drop length with
    | [] => some (0, none)
    | _ :: rest => readTime? rest
  let micros := day * microsPerDay + time
  if inCalendar micros then some ⟨micros, offset⟩ else none

end Moment

end Curation
