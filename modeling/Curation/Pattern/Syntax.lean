import Curation.Json.Writer
import Curation.Pattern.Category

/-!
Patterns: the expressions that a text is searched for, and what can be wrong with one. Expressions
have no look-around and no back references, so that searching takes time proportional to the text.
-/
namespace Curation.Pattern

/-- Closed ranges of code points. -/
abbrev Charset := List (Nat × Nat)

def greatestCode : Nat := 0x10ffff

namespace Charset

def holds (set : Charset) (code : Nat) : Bool :=
  set.any fun range => range.1 ≤ code && code ≤ range.2

/-- The code points that ranges in rising order leave out, from `next` on. -/
def gaps (next : Nat) : Charset → Charset
  | [] => if next ≤ greatestCode then [(next, greatestCode)] else []
  | (first, last) :: rest =>
    if next < first then (next, first - 1) :: gaps (max next (last + 1)) rest
    else gaps (max next (last + 1)) rest

def sorted (set : Charset) : Charset := set.mergeSort fun a b => decide (a.1 ≤ b.1)

/-- Every code point outside a set. -/
def complement (set : Charset) : Charset := gaps 0 set.sorted

/-- The set with every character that differs from one of its own only in case. -/
def folded (set : Charset) : Charset :=
  let ranges : Ranges := ⟨(complement (complement set)).toArray⟩
  let inside (code : Nat) : Bool := (ranges.find? code).isSome
  set ++ (orbits.filter fun orbit => orbit.any inside).flatMap fun orbit =>
    orbit.map fun code => (code, code)

end Charset

/-- A condition on a place in a text. -/
inductive Place where
  | textStart
  | textEnd
  | lineStart
  | lineEnd
  | wordEdge
  | noWordEdge
  deriving DecidableEq, Repr

/-- An expression. -/
inductive Expr where
  | empty
  | chars (set : Charset)
  | anyByte
  | place (place : Place)
  | sequence (first second : Expr)
  | either (first second : Expr)
  | star (body : Expr)
  | plus (body : Expr)
  | maybe (body : Expr)
  | counted (body : Expr) (least : Nat) (most : Option Nat)
  deriving Inhabited, Repr

/-- The greatest count in a repetition, and the greatest product of nested counts. -/
def greatestCount : Nat := 1000

/-- What is left of a budget when it is divided by the counts on the way to each leaf. -/
def Expr.budget (left : Nat) : Expr → Nat
  | .empty | .chars _ | .anyByte | .place _ => left
  | .sequence a b | .either a b => min (a.budget left) (b.budget left)
  | .star a | .plus a | .maybe a => a.budget left
  | .counted a least most =>
    let count := most.getD least
    a.budget (if 0 < count then left / count else left)

inductive FaultKind where
  | badEscape
  | badRange
  | missingBracket
  | missingParen
  | unexpectedParen
  | trailingBackslash
  | repeatArgument
  | repeatSize
  | repeatOperator
  | badOperator
  | badEncoding
  | badGroupName
  deriving DecidableEq, Repr

def FaultKind.words : FaultKind → String
  | .badEscape => "invalid escape sequence"
  | .badRange => "invalid character class range"
  | .missingBracket => "missing ]"
  | .missingParen => "missing )"
  | .unexpectedParen => "unexpected )"
  | .trailingBackslash => "trailing \\"
  | .repeatArgument => "no argument for repetition operator"
  | .repeatSize => "invalid repetition size"
  | .repeatOperator => "bad repetition operator"
  | .badOperator => "invalid perl operator"
  | .badEncoding => "invalid UTF-8"
  | .badGroupName => "invalid named capture group"

/-- What is wrong with a pattern, and the part of it at fault. -/
structure Fault where
  kind : FaultKind
  part : List Char
  deriving DecidableEq, Repr

/-- A byte inside a quoted byte text. -/
def quoteByte (quote : Char) (byte : UInt8) : List Char :=
  let c := Char.ofNat byte.toNat
  if c = quote ∨ c = '\\' then ['\\', c]
  else if c = '\n' then ['\\', 'n']
  else if c = '\r' then ['\\', 'r']
  else if c = '\t' then ['\\', 't']
  else if 0x20 ≤ byte.toNat ∧ byte.toNat < 0x7f then [c]
  else '\\' :: 'x' :: Text.paddedHex 2 byte.toNat

/-- The words for a fault, quoted as bytes. -/
def Fault.message (fault : Fault) : String :=
  let part := String.ofList fault.part
  let words := if part.isEmpty then fault.kind.words else fault.kind.words ++ ": " ++ part
  let chars := words.toList
  let quote := if chars.contains '\'' && !chars.contains '"' then '"' else '\''
  String.ofList ('b' :: quote :: (words.toUTF8.toList.flatMap (quoteByte quote) ++ [quote]))

end Curation.Pattern
