import Curation.Number.Basic

/-!
Lengths of time in whole microseconds, taken from numbers of hours or seconds. The whole part of a
number is converted exactly; its fraction is converted in binary64, and the sum is rounded to the
nearest microsecond, a half going to the even one. No length has more than 999999999 days.
-/
namespace Curation.Span

inductive Fault where
  | notANumber
  | endless
  | tooLong (days : Int)
  deriving DecidableEq, Repr

def microsPerHour : Int := 3600000000

def microsPerSecond : Int := 1000000

/-- The greatest count of days that a length may have. -/
def greatestDays : Int := 999999999

/-- A length within its bounds. -/
def bounded (micros : Int) : Except Fault Int :=
  let days := micros / (24 * microsPerHour)
  if days < -greatestDays ∨ greatestDays < days then .error (.tooLong days) else .ok micros

/-- A whole number plus a finite number, rounded to the nearest whole number, half to even. -/
def roundSum (whole : Int) (part : Binary64) : Int :=
  match part with
  | .finite negative m e =>
    if 0 ≤ e then whole + Binary64.overPower negative m e 0
    else
      let den : Int := Nat.pow 2 (-e).toNat
      let num := whole * den + (if negative then -(m : Int) else m)
      let q := num / den
      let r := num % den
      if 2 * r < den then q else if den < 2 * r then q + 1 else if q % 2 = 0 then q else q + 1
  | _ => whole

/-- So many units of a whole number of microseconds each. -/
def ofUnits (count : Number) (unit : Int) : Except Fault Int :=
  match count with
  | .whole n => bounded (n * unit)
  | .real x =>
    match x.truncate? with
    | none => .error (if x.isNaN then .notANumber else .endless)
    | some whole =>
      bounded (roundSum (whole * unit) (x.fraction.mul (Number.toReal (.whole unit))))

def ofHours (hours : Number) : Except Fault Int := ofUnits hours microsPerHour

def ofSeconds (seconds : Number) : Except Fault Int := ofUnits seconds microsPerSecond

end Curation.Span
