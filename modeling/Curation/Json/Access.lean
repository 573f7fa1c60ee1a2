import Curation.Json.Writer
import Curation.Text.Search
import Curation.Text.Whole

/-!
Taking parts out of values whose shape nobody promised. Each function names the one way in which a
value can fail it; no function invents a part that is not there.
-/
namespace Curation

/-- How a value was used in a way that its shape does not allow. -/
inductive Misuse where
  | missing (name : String)
  | missingPosition
  | pastTheEnd (ofText : Bool)
  | noMembers (kind use : String)
  | notIndexed (kind : String) (byName : Bool)
  | notListed (kind : String)
  | notSearched (kind : String)
  | searchInText (kind : String)
  | notWholeText (text : Json) (base : Nat)
  | notConvertible (kind : String)
  | notANumber
  | endless
  | notOrdered (sign left right : String)
  | notHashed (kind : String)
  | notText (kind : String)
  | tooLarge (what : String)
  deriving Inhabited, Repr

namespace Json

/-- The word for the kind of a value. -/
def kind : Json → String
  | .null => "NoneType"
  | .bool _ => "bool"
  | .number (.whole _) => "int"
  | .number (.real _) => "float"
  | .str _ => "str"
  | .arr _ => "list"
  | .obj _ => "dict"

/-- The members of an object; `use` names what they were wanted for. -/
def members (value : Json) (use : String := "get") : Except Misuse Members :=
  match value with
  | .obj members => .ok members
  | value => .error (.noMembers value.kind use)

/-- The member of an object under a name, or null. -/
def member (value : Json) (name : String) : Except Misuse Json := do
  let members ← value.members
  return (Members.get? name members).getD .null

/-- The member of an object under a name, or a given value where the name is absent. -/
def memberOr (value : Json) (name : String) (absent : Json) : Except Misuse Json := do
  let members ← value.members
  return (Members.get? name members).getD absent

/-- What stands under a name that has to be there. -/
def entry (value : Json) (name : String) : Except Misuse Json :=
  match value with
  | .obj members =>
    match Members.get? name members with
    | some found => .ok found
    | none => .error (.missing name)
  | value => .error (.notIndexed value.kind true)

/-- The first item of a list. -/
def first (value : Json) : Except Misuse Json :=
  match value with
  | .arr (item :: _) => .ok item
  | .arr [] => .error (.pastTheEnd false)
  | .str s =>
    match s.toList with
    | c :: _ => .ok (.str (String.singleton c))
    | [] => .error (.pastTheEnd true)
  | .obj _ => .error .missingPosition
  | value => .error (.notIndexed value.kind false)

/-- The items to go through: those of a list, the names of an object, the characters of a text. -/
def items (value : Json) : Except Misuse (List Json) :=
  match value with
  | .arr items => .ok items
  | .obj members => .ok (members.map fun pair => .str pair.1)
  | .str s => .ok (s.toList.map fun c => .str (String.singleton c))
  | value => .error (.notListed value.kind)

/-- Whether a list, an object or a text holds an item. -/
def holds (value item : Json) : Except Misuse Bool :=
  match value with
  | .arr items => .ok (items.any fun other => same other item)
  | .obj members =>
    match item with
    | .arr _ | .obj _ => .error (.notHashed item.kind)
    | item => .ok (members.any fun pair => same (.str pair.1) item)
  | .str s =>
    match item with
    | .str part => .ok (Text.occursIn part.toList s.toList)
    | item => .error (.searchInText item.kind)
  | value => .error (.notSearched value.kind)

/-- The first of a value and its stand-in that counts as set, as in "this, or else that". -/
def orElse (value standIn : Json) : Json := if value.truthy then value else standIn

/-- A value as a whole number: texts are read, fractions dropped, booleans count as 0 and 1. -/
def toWhole (value : Json) : Except Misuse Int :=
  match value with
  | .bool b => .ok (if b then 1 else 0)
  | .number (.whole n) => .ok n
  | .number (.real x) =>
    match x.truncate? with
    | some n => .ok n
    | none => .error (if x.isNaN then .notANumber else .endless)
  | .str s =>
    match Text.readWhole? 10 s.toList with
    | some n => .ok n
    | none => .error (.notWholeText value 10)
  | value => .error (.notConvertible value.kind)

end Json

namespace Misuse

/-- The words for a misuse. -/
def message : Misuse → String
  | .missing name => String.ofList (Json.quoted name)
  | .missingPosition => "0"
  | .pastTheEnd ofText => if ofText then "string index out of range" else "list index out of range"
  | .noMembers kind use => s!"'{kind}' object has no attribute '{use}'"
  | .notIndexed kind byName =>
    if kind == "list" && byName then "list indices must be integers or slices, not str"
    else if kind == "str" && byName then "string indices must be integers, not 'str'"
    else s!"'{kind}' object is not subscriptable"
  | .notListed kind => s!"'{kind}' object is not iterable"
  | .notSearched kind => s!"argument of type '{kind}' is not iterable"
  | .searchInText kind => s!"'in <string>' requires string as left operand, not {kind}"
  | .notWholeText text base =>
    s!"invalid literal for int() with base {base}: {String.ofList (Json.spelled text)}"
  | .notConvertible kind =>
    s!"int() argument must be a string, a bytes-like object or a real number, not '{kind}'"
  | .notANumber => "cannot convert float NaN to integer"
  | .endless => "cannot convert float infinity to integer"
  | .notOrdered sign left right =>
    s!"'{sign}' not supported between instances of '{left}' and '{right}'"
  | .notHashed kind => s!"unhashable type: '{kind}'"
  | .notText kind => s!"expected string or bytes-like object, got '{kind}'"
  | .tooLarge what => what

end Misuse

end Curation
