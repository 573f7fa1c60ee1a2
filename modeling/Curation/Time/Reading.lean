import Curation.Number.Basic
import Curation.Text.Classes
import Curation.Time.Moment

/-!
Moments written as text or as a number: a date, a date and a time with or without an offset, or a
count of seconds from 1970-01-01, which is taken as milliseconds when it is large.
-/
namespace Curation.Moment

def isDigit (c : Char) : Bool := '0' ≤ c && c ≤ '9'

def digitsOf (text : List Char) : Nat :=
  text.foldl (fun n c => 10 * n + (c.toNat - '0'.toNat)) 0

/-- Exactly so many digits. -/
def takeNumber? (count : Nat) (text : List Char) : Option (Nat × List Char) :=
  let digits := text.take count
  if digits.length = count ∧ digits.all isDigit then some (digitsOf digits, text.drop count)
  else none

/-- Reads `YYYY-MM-DD` at the front. -/
def readDate? (text : List Char) : Option (Date × List Char) := do
  let (year, rest) ← takeNumber? 4 text
  let ('-' :: rest) := rest | none
  let (month, rest) ← takeNumber? 2 rest
  let ('-' :: rest) := rest | none
  let (day, rest) ← takeNumber? 2 rest
  let date : Date := ⟨year, month, day⟩
  if date.isValid then some (date, rest) else none

/-- The microseconds written behind a point; digits after the sixth are dropped. -/
def readFraction? (text : List Char) : Option (Nat × List Char) :=
  let digits := text.takeWhile isDigit
  if digits.isEmpty then none
  else
    let six := (digits ++ List.replicate 6 '0').take 6
    some (digitsOf six, text.dropWhile isDigit)

/-- Reads `HH:MM`, seconds and their fraction, as microseconds of the day. -/
def readClock? (text : List Char) : Option (Int × List Char) := do
  let (hour, rest) ← takeNumber? 2 text
  let (':' :: rest) := rest | none
  let (minute, rest) ← takeNumber? 2 rest
  if 23 < hour ∨ 59 < minute then none
  else
    let minutes : Int := (hour * 60 + minute : Nat)
    match rest with
    | ':' :: rest =>
      let (second, rest) ← takeNumber? 2 rest
      if 59 < second then none
      else
        let seconds : Int := minutes * 60 + (second : Nat)
        match rest with
        | '.' :: rest | ',' :: rest =>
          let (fraction, rest) ← readFraction? rest
          some (seconds * 1000000 + (fraction : Nat), rest)
        | _ => some (seconds * 1000000, rest)
    | _ => some (minutes * 60000000, rest)

/-- Reads an offset, which ends the text. -/
def readOffset? (text : List Char) : Option (Option Int) :=
  match text with
  | [] => some none
  | ['Z'] | ['z'] => some (some 0)
  | sign :: rest =>
    if sign = '+' ∨ sign = '-' ∨ sign = '−' then do
      let (hour, rest) ← takeNumber? 2 rest
      let rest := match rest with
        | ':' :: rest => rest
        | _ => rest
      let (minute, rest) ← takeNumber? 2 rest
      if !rest.isEmpty ∨ 59 < minute ∨ 23 < hour then none
      else
        let size : Int := ((hour * 60 + minute) * 60 : Nat)
        some (some (if sign = '+' then size else -size))
    else none

/-- A date with a time of day. -/
def readDateTime? (text : List Char) : Option Moment := do
  let (date, rest) ← readDate? text
  let (separator :: rest) := rest | none
  if separator = 'T' ∨ separator = 't' ∨ separator = ' ' ∨ separator = '_' then
    let (time, rest) ← readClock? rest
    let offset ← readOffset? rest
    some ⟨date.toDays * microsPerDay + time, offset⟩
  else none

/-- Counts above this size are milliseconds. -/
def secondsLimit : Int := 20000000000

/-- The moment so many whole seconds (or milliseconds) and microseconds from 1970-01-01. -/
def ofTimestamp? (count : Int) (micros : Nat) : Option Moment :=
  let total :=
    if secondsLimit < count.natAbs then count * 1000 + micros else count * 1000000 + micros
  let earliest := Date.toDays ⟨1600, 1, 1⟩ * microsPerDay
  if earliest ≤ total ∧ total < afterLatest then some ⟨total, some 0⟩ else none

/-- The moment that a number counts to. -/
def ofNumber? (count : Number) : Option Moment :=
  match count with
  | .whole n => ofTimestamp? n 0
  | .real x =>
    match x.truncate? with
    | none => none
    | some whole =>
      let fraction := x.fraction
      let floor := if !fraction.isZero && fraction.lt .zero then whole - 1 else whole
      let size := if fraction.lt .zero then fraction.neg else fraction
      let scaled := size.mul (Number.toReal (.whole 1000000))
      let micros := match scaled with
        | .finite _ m e => if 0 ≤ e then m * Nat.pow 2 e.toNat
          else (2 * m + Nat.pow 2 (-e).toNat) / (2 * Nat.pow 2 (-e).toNat)
        | _ => 0
      ofTimestamp? floor micros

end Curation.Moment
