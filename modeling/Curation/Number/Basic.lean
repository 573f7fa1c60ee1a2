import Curation.Number.Shortest

/-!
Numbers as configuration, payloads and clocks hold them: whole numbers of any size, or binary64
ones. The two kinds compare by value; a sum or product involving a binary64 number is one.
-/
namespace Curation

inductive Number where
  | whole (n : Int)
  | real (x : Binary64)
  deriving DecidableEq, Repr, Inhabited

namespace Number

instance : Coe Int Number := ⟨.whole⟩

instance (n : Nat) : OfNat Number n := ⟨.whole n⟩

/-- An integer beside a binary64 number, compared exactly, without rounding the integer. -/
def compareWhole (n : Int) (x : Binary64) : Option Ordering :=
  match x with
  | .nan => none
  | .infinity negative => some (if negative then .gt else .lt)
  | .finite s m e =>
    let base := min e 0
    some (compare (n * Nat.pow 2 (-base).toNat) (Binary64.overPower s m e base))

/-- How two numbers compare by value; a NaN compares with nothing. -/
def compare? : Number → Number → Option Ordering
  | .whole m, .whole n => some (compare m n)
  | .whole m, .real y => compareWhole m y
  | .real x, .whole n => (compareWhole n x).map Ordering.swap
  | .real x, .real y => x.compare? y

def lt (x y : Number) : Bool := x.compare? y == some .lt

def le (x y : Number) : Bool :=
  match x.compare? y with
  | some .lt | some .eq => true
  | _ => false

/-- Equality by value: `1` and `1.0` are equal, and no NaN equals anything. -/
def eq (x y : Number) : Bool := x.compare? y == some .eq

/-- The smaller of two numbers, the first one unless the second is strictly smaller. -/
def least (x y : Number) : Number := if y.lt x then y else x

/-- The larger of two numbers, the first one unless the second is strictly larger. -/
def greatest (x y : Number) : Number := if x.lt y then y else x

/-- The binary64 number nearest to a number, or none when an integer lies beyond the largest. -/
def toReal? : Number → Option Binary64
  | .whole n => Binary64.ofInt? n
  | .real x => some x

/-- The nearest binary64 number; an integer beyond the largest becomes infinite. -/
def toReal (x : Number) : Binary64 :=
  match x with
  | .whole n => Binary64.ofRatio (decide (n < 0)) n.natAbs 1
  | .real x => x

def add : Number → Number → Number
  | .whole m, .whole n => .whole (m + n)
  | x, y => .real (x.toReal.add y.toReal)

def sub : Number → Number → Number
  | .whole m, .whole n => .whole (m - n)
  | x, y => .real (x.toReal.sub y.toReal)

def isZero : Number → Bool
  | .whole n => n == 0
  | .real x => x.isZero

/-- The text of a number, with the words given for the values that have no digits. -/
def text (x : Number) (infinite notANumber : String) : String :=
  match x with
  | .whole n => toString n
  | .real x => x.text infinite notANumber

end Number

end Curation
