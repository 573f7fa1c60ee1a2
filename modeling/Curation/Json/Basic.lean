import Curation.Number.Basic

/-!
JSON values. Objects keep their members in the order of first insertion, and writing a name again
replaces its value in place. Values are compared by value: `true`, `1`
and `1.0` are equal, and the order of members does not count.
-/
namespace Curation

inductive Json where
  | null
  | bool (b : Bool)
  | number (n : Number)
  | str (s : String)
  | arr (items : List Json)
  | obj (members : List (String × Json))
  deriving Inhabited, Repr

namespace Json

/-- The members of an object, in order. -/
abbrev Members := List (String × Json)

namespace Members

/-- The value written under a name. -/
def get? (name : String) : Members → Option Json
  | [] => none
  | (key, value) :: rest => if key = name then some value else get? name rest

/-- Writes a value: in place when the name is there, at the end otherwise. -/
def put (name : String) (value : Json) : Members → Members
  | [] => [(name, value)]
  | (key, old) :: rest =>
    if key = name then (key, value) :: rest else (key, old) :: put name value rest

/-- The members left by writing pairs one after the other. -/
def ofPairs (pairs : List (String × Json)) : Members :=
  pairs.foldl (fun members pair => put pair.1 pair.2 members) []

theorem get?_put (name other : String) (value : Json) (members : Members) :
    get? other (put name value members) =
      if name = other then some value else get? other members := by
  induction members with
  | nil => simp [put, get?]
  | cons head rest ih =>
    obtain ⟨key, old⟩ := head
    by_cases same : key = name
    · subst same
      by_cases here : key = other <;> simp [put, get?, here]
    · by_cases here : key = other
      · subst here
        simp [put, get?, same, Ne.symm same]
      · simp [put, get?, same, here, ih]

end Members

instance : Coe Int Json := ⟨fun n => .number (.whole n)⟩

/-- An integer as a JSON value. -/
def int (n : Int) : Json := .number (.whole n)

/-- The text or null. -/
def ofText? : Option String → Json
  | some s => .str s
  | none => .null

/-- A text as itself, everything else as the empty text. -/
def textOrEmpty : Json → String
  | .str s => s
  | _ => ""

/-- The members of an object; nothing else has any. -/
def ownMembers : Json → Members
  | .obj members => members
  | _ => []

/-- The items of a list; nothing else has any. -/
def ownItems : Json → List Json
  | .arr items => items
  | _ => []

def text? : Json → Option String
  | .str s => some s
  | _ => none

def flag? : Json → Option Bool
  | .bool b => some b
  | _ => none

def whole? : Json → Option Int
  | .number (.whole n) => some n
  | _ => none

def isNull : Json → Bool
  | .null => true
  | _ => false

/-- Whether a value counts as set: not null, false, zero, or empty. -/
def truthy : Json → Bool
  | .null => false
  | .bool b => b
  | .number n => !n.isZero
  | .str s => s != ""
  | .arr items => !items.isEmpty
  | .obj members => !members.isEmpty

/-- A boolean or a number as a number; booleans count as 0 and 1. -/
def toNumber? : Json → Option Number
  | .bool b => some (.whole (if b then 1 else 0))
  | .number n => some n
  | _ => none

mutual
/-- The same value with null for every number that is not finite. -/
def finite : Json → Json
  | .null => .null
  | .bool b => .bool b
  | .number (.whole n) => .number (.whole n)
  | .number (.real x) => if x.isFinite then .number (.real x) else .null
  | .str s => .str s
  | .arr items => .arr (finiteItems items)
  | .obj members => .obj (finiteMembers members)

def finiteItems : List Json → List Json
  | [] => []
  | item :: rest => finite item :: finiteItems rest

def finiteMembers : Members → Members
  | [] => []
  | (name, value) :: rest => (name, finite value) :: finiteMembers rest
end

mutual
/-- Equality by value: numbers and booleans compare as numbers, objects regardless of order. -/
def same : Json → Json → Bool
  | .null, .null => true
  | .bool a, .bool b => a == b
  | .bool a, .number n => Number.eq (.whole (if a then 1 else 0)) n
  | .number n, .bool b => Number.eq n (.whole (if b then 1 else 0))
  | .number m, .number n => Number.eq m n
  | .str a, .str b => a == b
  | .arr xs, .arr ys => sameItems xs ys
  | .obj xs, .obj ys => xs.length == ys.length && sameMembers xs ys
  | _, _ => false

def sameItems : List Json → List Json → Bool
  | [], [] => true
  | x :: xs, y :: ys => same x y && sameItems xs ys
  | _, _ => false

def sameMembers : Members → Members → Bool
  | [], _ => true
  | (name, value) :: rest, others =>
    (match Members.get? name others with
      | some other => same value other
      | none => false) && sameMembers rest others
end

end Json

end Curation
