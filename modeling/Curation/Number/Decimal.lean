import Curation.Number.Binary64
import Curation.Text.Whole

/-!
Decimal amounts as people write them, kept exactly as a coefficient and a power of ten, and their
conversion into base units of a token: a shift of the exponent, one rounding to twenty-eight digits,
and the fraction dropped. An amount of at most twenty-eight digits is converted exactly.
-/
namespace Curation

/-- A written amount. -/
inductive Decimal where
  | finite (negative : Bool) (coefficient : Nat) (exponent : Int)
  | infinity (negative : Bool)
  | nan (signaling : Bool)
  deriving DecidableEq, Repr, Inhabited

namespace Decimal

/-- How many digits results keep. -/
def precision : Nat := 28

/-- The greatest exponent of the leading digit of a result. -/
def greatestExponent : Int := 999999

/-- The greatest exponent of the leading digit that can be written. -/
def widestExponent : Int := 999999999999999999

/-- The least exponent of the last digit that can be written. -/
def finestExponent : Int := -1999999999999999997

/-- How many decimal digits a coefficient has; zero has one. -/
def digits (n : Nat) : Nat := (Nat.toDigits 10 n).length

/-- The characters of an amount with blanks at the ends and underscores dropped and the digits of
other scripts turned into ASCII ones; none when another character beyond ASCII occurs. -/
def plainText? (text : List Char) : Option (List Char) :=
  ((Text.trimBlanks text).filter (· ≠ '_')).mapM fun c =>
    if c.toNat < 128 then some c
    else (Text.digitValue? c).map fun d => Char.ofNat (0x30 + d)

def isDigit (c : Char) : Bool := '0' ≤ c && c ≤ '9'

def number (digits : List Char) : Nat :=
  digits.foldl (fun n c => 10 * n + (c.toNat - '0'.toNat)) 0

/-- An exponent part: `e`, a sign if any, and at least one digit; or nothing at all. -/
def exponent? : List Char → Option Int
  | [] => some 0
  | e :: rest =>
    if e = 'e' ∨ e = 'E' then
      let (negative, tail) := Text.takeSign rest
      if tail.isEmpty || !tail.all isDigit then none
      else some (if negative then -(number tail : Int) else number tail)
    else none

/-- Digits with at most one point among them, then an exponent part. -/
def finite? (negative : Bool) (text : List Char) : Option Decimal := do
  let whole := text.takeWhile isDigit
  let rest := text.dropWhile isDigit
  let (fraction, rest) := match rest with
    | '.' :: tail => (tail.takeWhile isDigit, tail.dropWhile isDigit)
    | _ => ([], rest)
  if whole.isEmpty && fraction.isEmpty then none
  else
    let shift ← exponent? rest
    let coefficient := number (whole ++ fraction)
    let exponent := shift - fraction.length
    if widestExponent < exponent + digits coefficient - 1 || exponent < finestExponent then none
    else some (.finite negative coefficient exponent)

/-- The amount that a text writes: finite, infinite, or not a number. -/
def read? (text : String) : Option Decimal := do
  let plain ← plainText? text.toList
  let (negative, rest) := Text.takeSign plain
  let word := String.ofList (rest.map Char.toLower)
  if word == "inf" || word == "infinity" then some (.infinity negative)
  else
    let isPayload (tail : List Char) : Bool := tail.all isDigit
    match word.toList with
    | 'n' :: 'a' :: 'n' :: tail => if isPayload tail then some (.nan false) else none
    | 's' :: 'n' :: 'a' :: 'n' :: tail => if isPayload tail then some (.nan true) else none
    | _ => finite? negative rest

/-- The quotient by a power of ten rounded to the nearest whole number, a half going to the even
neighbour. -/
def roundDigits (coefficient drop : Nat) : Nat := roundHalfEven coefficient (Nat.pow 10 drop)

/-- A coefficient and exponent rounded to the precision of results. -/
def rounded (coefficient : Nat) (exponent : Int) : Nat × Int :=
  let drop := digits coefficient - precision
  (roundDigits coefficient drop, exponent + drop)

/-- The whole part of `coefficient · 10 ^ exponent`. -/
def wholePart (coefficient : Nat) (exponent : Int) : Nat :=
  if 0 ≤ exponent then coefficient * Nat.pow 10 exponent.toNat
  else if digits coefficient ≤ (-exponent).toNat then 0
  else coefficient / Nat.pow 10 (-exponent).toNat

/-- The widest shift of an exponent. -/
def greatestShift : Int := 2 * (greatestExponent + precision)

/-- Why an amount has no value in base units. -/
inductive UnitFault where
  | shiftTooLarge
  | signalingNaN
  | notANumber
  | endless
  | tooLarge
  deriving DecidableEq, Repr

/-- An amount in base units of a token with the given number of decimals. -/
def toUnits (amount : Decimal) (decimals : Int) : Except UnitFault Int :=
  match amount with
  | .nan true => .error .signalingNaN
  | .nan false => .error .notANumber
  | .infinity _ =>
    if greatestShift < decimals.natAbs then .error .shiftTooLarge
    else .error .endless
  | .finite negative coefficient exponent =>
    if greatestShift < decimals.natAbs then .error .shiftTooLarge
    else if coefficient = 0 then .ok 0
    else
      let (c, e) := rounded coefficient (exponent + decimals)
      if greatestExponent < e + digits c - 1 then .error .tooLarge
      else
        let size : Int := wholePart c e
        .ok (if negative then -size else size)

end Decimal

end Curation
