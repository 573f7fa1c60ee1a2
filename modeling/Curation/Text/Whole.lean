import Curation.Text.Classes

/-!
Whole numbers written as text: blanks around, a sign, digits of any script with single underscores
between them, and in base sixteen an optional `0x`. The value read is the positional value of the
digits. A number written in tens may only have so many of them.
-/
namespace Curation.Text

/-- Blanks allowed around a number: the six ASCII ones and every blank beyond ASCII. -/
def isMargin (c : Char) : Bool :=
  if c.toNat < 128 then c.toNat == 0x20 || (0x09 ≤ c.toNat && c.toNat ≤ 0x0d) else isBlank c

def trimMargin (text : List Char) : List Char :=
  ((text.dropWhile isMargin).reverse.dropWhile isMargin).reverse

/-- The value of a digit in a base up to sixteen. -/
def baseDigit? (base : Nat) (c : Char) : Option Nat :=
  let value := match digitValue? c with
    | some d => some d
    | none =>
      if 'a' ≤ c ∧ c ≤ 'f' then some (c.toNat - 'a'.toNat + 10)
      else if 'A' ≤ c ∧ c ≤ 'F' then some (c.toNat - 'A'.toNat + 10)
      else none
  value.filter (· < base)

/-- Reads digits with single underscores between them; `value` is what was read before. -/
def readDigits (base value : Nat) : List Char → Option Nat
  | [] => some value
  | ['_'] => none
  | '_' :: c :: rest => do
    let d ← baseDigit? base c
    readDigits base (base * value + d) rest
  | c :: rest => do
    let d ← baseDigit? base c
    readDigits base (base * value + d) rest

/-- At least one digit, the first of them no underscore. -/
def readMagnitude (base : Nat) : List Char → Option Nat
  | [] => none
  | '_' :: _ => none
  | text => readDigits base 0 text

/-- Drops the mark of base sixteen, which one underscore may follow. -/
def dropBaseMark (base : Nat) (text : List Char) : List Char :=
  match base, text with
  | 16, '0' :: x :: '_' :: rest => if x = 'x' ∨ x = 'X' then rest else text
  | 16, '0' :: x :: rest => if x = 'x' ∨ x = 'X' then rest else text
  | _, text => text

/-- Splits off a sign; true stands for minus. -/
def takeSign : List Char → Bool × List Char
  | '-' :: rest => (true, rest)
  | '+' :: rest => (false, rest)
  | text => (false, text)

/-- The most digits that a number written in tens may have. -/
def mostDigits : Nat := 4300

/-- The whole number that a text stands for in a base. -/
def readWhole? (base : Nat) (text : List Char) : Option Int := do
  let (negative, rest) := takeSign (trimMargin text)
  if base = 10 ∧ mostDigits < (rest.filter (· ≠ '_')).length then none
  let size ← readMagnitude base (dropBaseMark base rest)
  return if negative then -(size : Int) else size

end Curation.Text
