/-!
Binary64 numbers as exact values: every finite one is a significand times a power of two, so sums,
products and comparisons are integer arithmetic followed by one rounding. Rounding a ratio goes to
the nearest representable value and sends a tie to the even significand.
-/
namespace Curation

/-- The quotient rounded to the nearest natural number, a half going to the even neighbour. -/
def roundHalfEven (num den : Nat) : Nat :=
  let q := num / den
  let r := num % den
  if 2 * r < den then q
  else if den < 2 * r then q + 1
  else if q % 2 = 0 then q else q + 1

/-- A binary64 number. A finite one is `± significand · 2 ^ exponent`, kept in the one form whose
significand has 53 bits, or whose exponent is the least possible, so equal values are equal terms
(the two zeros apart). -/
inductive Binary64 where
  | nan
  | infinity (negative : Bool)
  | finite (negative : Bool) (significand : Nat) (exponent : Int)
  deriving DecidableEq, Repr, Inhabited

namespace Binary64

/-- The exponent of the spacing between the smallest numbers. -/
def leastExponent : Int := -1074

/-- The exponent of the spacing between the largest numbers. -/
def greatestExponent : Int := 971

def zero : Binary64 := .finite false 0 leastExponent

/-- Scales a ratio by `2 ^ (-e)`, keeping numerator and denominator whole. -/
def scaleDown (num den : Nat) (e : Int) : Nat × Nat :=
  if 0 ≤ e then (num, den * Nat.pow 2 e.toNat) else (num * Nat.pow 2 (-e).toNat, den)

/-- The spacing of the binary64 numbers around a positive ratio. -/
def spacing (num den : Nat) : Int :=
  let guess : Int := (Nat.log2 num : Int) - Nat.log2 den - 53
  let (n, d) := scaleDown num den guess
  let exact := if n / d < 0x20000000000000 then guess else guess + 1
  max exact leastExponent

/-- The binary64 number nearest to `± num / den`; beyond the largest number it is infinite. -/
def ofRatio (negative : Bool) (num den : Nat) : Binary64 :=
  if num = 0 ∨ den = 0 then .finite negative 0 leastExponent
  else
    let e := spacing num den
    let (n, d) := scaleDown num den e
    let m := roundHalfEven n d
    let (m, e) := if m < 0x20000000000000 then (m, e) else (0x10000000000000, e + 1)
    if greatestExponent < e then .infinity negative else .finite negative m e

/-- The number nearest to `± significand · 2 ^ exponent`. -/
def ofBinary (negative : Bool) (significand : Nat) (exponent : Int) : Binary64 :=
  if 0 ≤ exponent then ofRatio negative (significand * Nat.pow 2 exponent.toNat) 1
  else ofRatio negative significand (Nat.pow 2 (-exponent).toNat)

/-- The number nearest to `± coefficient · 10 ^ exponent`. Exponents far outside the range are
decided by the count of digits, so that no enormous power is formed. -/
def ofDecimal (negative : Bool) (coefficient : Nat) (exponent : Int) : Binary64 :=
  if coefficient = 0 then .finite negative 0 leastExponent
  else
    if exponent + (Nat.log2 coefficient / 3 : Nat) + 1 < -330 then .finite negative 0 leastExponent
    else if 400 < exponent then .infinity negative
    else if 0 ≤ exponent then ofRatio negative (coefficient * Nat.pow 10 exponent.toNat) 1
    else ofRatio negative coefficient (Nat.pow 10 (-exponent).toNat)

/-- The nearest number to an integer, or none when it lies beyond the largest one. -/
def ofInt? (n : Int) : Option Binary64 :=
  match ofRatio (decide (n < 0)) n.natAbs 1 with
  | .finite s m e => some (.finite s m e)
  | _ => none

def isNaN : Binary64 → Bool
  | .nan => true
  | _ => false

def isFinite : Binary64 → Bool
  | .finite .. => true
  | _ => false

def isZero : Binary64 → Bool
  | .finite _ m _ => m == 0
  | _ => false

def neg : Binary64 → Binary64
  | .nan => .nan
  | .infinity s => .infinity (!s)
  | .finite s m e => .finite (!s) m e

/-- A finite value over the power of two `2 ^ base`, exact when `base ≤ exponent`. -/
def overPower (negative : Bool) (significand : Nat) (exponent base : Int) : Int :=
  let size : Nat := significand * Nat.pow 2 (exponent - base).toNat
  if negative then -(size : Int) else size

/-- The nearest number to `value · 2 ^ exponent`; an exact zero takes the given sign. -/
def ofScaled (value : Int) (exponent : Int) (zeroNegative : Bool) : Binary64 :=
  if value = 0 then .finite zeroNegative 0 leastExponent
  else ofBinary (decide (value < 0)) value.natAbs exponent

/-- The sum, rounded once. Opposite values sum to a positive zero. -/
def add : Binary64 → Binary64 → Binary64
  | .nan, _ => .nan
  | _, .nan => .nan
  | .infinity s, .infinity t => if s = t then .infinity s else .nan
  | .infinity s, _ => .infinity s
  | _, .infinity t => .infinity t
  | .finite s m e, .finite t n f =>
    let base := min e f
    ofScaled (overPower s m e base + overPower t n f base) base (s && t)

def sub (x y : Binary64) : Binary64 := add x y.neg

/-- The product, rounded once. -/
def mul : Binary64 → Binary64 → Binary64
  | .nan, _ => .nan
  | _, .nan => .nan
  | .infinity s, .infinity t => .infinity (s != t)
  | .infinity s, .finite t n _ => if n = 0 then .nan else .infinity (s != t)
  | .finite s m _, .infinity t => if m = 0 then .nan else .infinity (s != t)
  | .finite s m e, .finite t n f =>
    if m * n = 0 then .finite (s != t) 0 leastExponent
    else ofBinary (s != t) (m * n) (e + f)

/-- How two numbers compare; a NaN compares with nothing, and the zeros are equal. -/
def compare? : Binary64 → Binary64 → Option Ordering
  | .nan, _ => none
  | _, .nan => none
  | .infinity s, .infinity t =>
    some (if s = t then .eq else if s then .lt else .gt)
  | .infinity s, .finite .. => some (if s then .lt else .gt)
  | .finite .., .infinity t => some (if t then .gt else .lt)
  | .finite s m e, .finite t n f =>
    let base := min e f
    some (compare (overPower s m e base) (overPower t n f base))

def lt (x y : Binary64) : Bool := x.compare? y == some .lt

def le (x y : Binary64) : Bool :=
  match x.compare? y with
  | some .lt | some .eq => true
  | _ => false

/-- Numeric equality: no NaN equals anything, and the two zeros are equal. -/
def eq (x y : Binary64) : Bool := x.compare? y == some .eq

/-- A finite value with its fraction dropped. -/
def truncate? : Binary64 → Option Int
  | .finite s m e =>
    let size : Nat := if 0 ≤ e then m * Nat.pow 2 e.toNat else m / Nat.pow 2 (-e).toNat
    some (if s then -(size : Int) else size)
  | _ => none

/-- Whether a value is finite and has no fraction. -/
def isWhole : Binary64 → Bool
  | .finite _ m e => decide (0 ≤ e) || m % Nat.pow 2 (-e).toNat == 0
  | _ => false

/-- The fractional part of a finite value, carrying its sign. -/
def fraction : Binary64 → Binary64
  | .finite s m e =>
    if 0 ≤ e then .finite s 0 leastExponent
    else ofBinary s (m % Nat.pow 2 (-e).toNat) e
  | .infinity s => .finite s 0 leastExponent
  | .nan => .nan

end Binary64

end Curation
