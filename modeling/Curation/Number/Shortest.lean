import Curation.Number.Binary64

/-!
The text of a binary64 number: the fewest digits that read back as the same number, the nearest of
those, positional between `1e-4` and `1e16` and with an exponent outside. The digits chosen always
read back, because a candidate is only taken after it was read back.
-/
namespace Curation.Binary64

/-- How many decimal digits a natural number has; zero has none. -/
def digitCount (n : Nat) : Nat := if n = 0 then 0 else (Nat.toDigits 10 n).length

/-- The greatest `k` with `10 ^ k ≤ num / den`, for a positive ratio. -/
def decimalExponent (num den : Nat) : Int :=
  if den ≤ num then (digitCount (num / den) : Int) - 1
  else -(digitCount ((num + den - 1 + (den - 1)) / num - 1) : Int)

/-- The magnitude of a finite value as a ratio. -/
def magnitude (significand : Nat) (exponent : Int) : Nat × Nat :=
  if 0 ≤ exponent then (significand * Nat.pow 2 exponent.toNat, 1)
  else (significand, Nat.pow 2 (-exponent).toNat)

/-- The two points of the grid `10 ^ k · ℤ` around a ratio: the lower one, and whether the upper one
is strictly nearer or equally near and even. -/
def gridBelow (num den : Nat) (k : Int) : Nat × Bool :=
  let (n, d) :=
    if 0 ≤ k then (num, den * Nat.pow 10 k.toNat) else (num * Nat.pow 10 (-k).toNat, den)
  let lower := n / d
  (lower, roundHalfEven n d ≠ lower)

/-- The nearest point of the grid `10 ^ k · ℤ` that reads back as the given number. -/
def gridHit (x : Binary64) (num den : Nat) (k : Int) : Option (Nat × Int) :=
  let (lower, upperFirst) := gridBelow num den k
  let reads (c : Nat) : Bool := ofDecimal false c k == x
  let (first, second) := if upperFirst then (lower + 1, lower) else (lower, lower + 1)
  if reads first then some (first, k)
  else if reads second then some (second, k)
  else none

/-- Tries grids with one digit more each time. -/
def searchGrids (x : Binary64) (num den : Nat) (leading : Int) : Nat → Nat → Option (Nat × Int)
  | 0, _ => none
  | tries + 1, digits =>
    match gridHit x num den (leading - digits + 1) with
    | some hit => some hit
    | none => searchGrids x num den leading tries (digits + 1)

/-- Every digit of a positive finite value, which has a finite decimal expansion. -/
def exactDecimal (significand : Nat) (exponent : Int) : Nat × Int :=
  if 0 ≤ exponent then (significand * Nat.pow 2 exponent.toNat, 0)
  else (significand * Nat.pow 5 (-exponent).toNat, exponent)

/-- Drops trailing zeros of a coefficient into its exponent. -/
def stripZeros : Nat → Nat → Int → Nat × Int
  | 0, c, k => (c, k)
  | fuel + 1, c, k => if c ≠ 0 ∧ c % 10 = 0 then stripZeros fuel (c / 10) (k + 1) else (c, k)

/-- The shortest decimal `coefficient · 10 ^ exponent` that reads back as a positive finite value.
-/
def shortestDecimal (significand : Nat) (exponent : Int) : Nat × Int :=
  let (num, den) := magnitude significand exponent
  let x := Binary64.finite false significand exponent
  let (c, k) := (searchGrids x num den (decimalExponent num den) 17 1).getD
    (exactDecimal significand exponent)
  stripZeros (digitCount c) c k

/-- Lays out digits with the point after position `point`: positional for `-4 < point ≤ 16`, with a
sign and at least two digits in the exponent otherwise. -/
def layout (digits : List Char) (point : Int) : List Char :=
  let zeros (n : Nat) : List Char := List.replicate n '0'
  if -4 < point ∧ point ≤ 16 then
    if point ≤ 0 then '0' :: '.' :: (zeros (-point).toNat ++ digits)
    else if digits.length ≤ point.toNat then
      digits ++ zeros (point.toNat - digits.length) ++ ['.', '0']
    else digits.take point.toNat ++ '.' :: digits.drop point.toNat
  else
    let e := point - 1
    let exponent := Nat.toDigits 10 e.natAbs
    let padded := if exponent.length < 2 then '0' :: exponent else exponent
    let mantissa := match digits with
      | [] => ['0']
      | [d] => [d]
      | d :: rest => d :: '.' :: rest
    mantissa ++ 'e' :: (if e < 0 then '-' else '+') :: padded

/-- The text of a number; infinities and NaN have the words given. -/
def text (x : Binary64) (infinite notANumber : String) : String :=
  match x with
  | .nan => notANumber
  | .infinity false => infinite
  | .infinity true => "-" ++ infinite
  | .finite negative m e =>
    let body :=
      if m = 0 then ['0', '.', '0']
      else
        let (c, k) := shortestDecimal m e
        let digits := Nat.toDigits 10 c
        layout digits ((digits.length : Int) + k)
    String.ofList (if negative then '-' :: body else body)

end Curation.Binary64
