import Curation.Decode.Checked
import Curation.Text.Case
import Curation.Time.Reading

/-!
Checks of values without parts. Numbers may be given as text and flags as words; texts are only ever
texts. A whole number may carry an empty fraction.
-/
namespace Curation.Decode

/-- Blanks that may stand around a number given as text. -/
def isPadding (c : Char) : Bool := Text.isBlank c && !(0x1c ≤ c.toNat && c.toNat ≤ 0x1f)

def trim (text : List Char) : List Char :=
  ((text.dropWhile isPadding).reverse.dropWhile isPadding).reverse

def isDigit (c : Char) : Bool := '0' ≤ c && c ≤ '9'

def digitsOf (text : List Char) : Nat :=
  text.foldl (fun n c => 10 * n + (c.toNat - '0'.toNat)) 0

/-- Whether two underscores stand side by side. -/
def hasDoubleUnderscore : List Char → Bool
  | '_' :: '_' :: _ => true
  | _ :: rest => hasDoubleUnderscore rest
  | [] => false

/-- The text without its underscores, which may stand alone and inside only. -/
def dropUnderscores? (text : List Char) : Option (List Char) :=
  if text.head? == some '_' || text.getLast? == some '_' || hasDoubleUnderscore text then none
  else some (text.filter (· ≠ '_'))

/-- A sign and digits. -/
def plainWhole? (text : List Char) : Option Int :=
  let (negative, digits) := match text with
    | '-' :: rest => (true, rest)
    | '+' :: rest => (false, rest)
    | _ => (false, text)
  if digits.isEmpty || !digits.all isDigit then none
  else some (if negative then -(digitsOf digits : Int) else digitsOf digits)

/-- The whole number in a text, whose fraction may hold zeros only. -/
def wholeOfText? (text : List Char) : Option Int :=
  let text := trim text
  let read (text : List Char) : Option Int :=
    (plainWhole? text).orElse fun _ => (dropUnderscores? text).bind plainWhole?
  (read text).orElse fun _ =>
    if text.contains '.' && ((text.dropWhile (· ≠ '.')).drop 1).all (· == '0') then
      read (text.takeWhile (· ≠ '.'))
    else none

/-- A whole number: also a flag, a number without fraction, or a text of one. -/
def whole : Reader Int
  | .bool b => .ok (if b then 1 else 0)
  | .number (.whole n) => .ok n
  | .number (.real x) =>
    match x.truncate? with
    | none => .issue .finiteNumber
    | some n =>
      if !x.isWhole then .issue .wholeFromReal
      else if n.natAbs < 0x8000000000000000 then .ok n
      else .issue .wholeParsingSize
  | .str s =>
    if 4300 < (trim s.toList).length then .issue .wholeParsingSize
    else
      match wholeOfText? s.toList with
      | some n => .ok n
      | none => .issue .wholeParsing
  | _ => .issue .wholeType

/-- Digits with at most one point, at least one digit, and an exponent part if any. -/
def plainReal? (text : List Char) : Option Binary64 :=
  let (negative, body) := match text with
    | '-' :: rest => (true, rest)
    | '+' :: rest => (false, rest)
    | _ => (false, text)
  let word := String.ofList (body.map Char.toLower)
  if word == "inf" || word == "infinity" then some (.infinity negative)
  else if word == "nan" then some .nan
  else
    let digits := body.takeWhile isDigit
    let rest := body.dropWhile isDigit
    let (fraction, rest) := match rest with
      | '.' :: tail => (tail.takeWhile isDigit, tail.dropWhile isDigit)
      | _ => ([], rest)
    if digits.isEmpty && fraction.isEmpty then none
    else
      let value (exponent : Int) : Binary64 :=
        Binary64.ofDecimal negative (digitsOf (digits ++ fraction)) (exponent - fraction.length)
      match rest with
      | [] => some (value 0)
      | e :: tail =>
        if e = 'e' ∨ e = 'E' then (plainWhole? tail).map value else none

def realOfText? (text : List Char) : Option Binary64 :=
  (plainReal? (trim text)).orElse fun _ =>
    (dropUnderscores? text).bind fun text => plainReal? (trim text)

/-- A binary64 number: also a whole number that is not too large for one, a flag, or a text. -/
def real : Reader Binary64
  | .bool b => .ok (Number.toReal (.whole (if b then 1 else 0)))
  | .number n =>
    match n.toReal? with
    | some x => .ok x
    | none => .issue .realType
  | .str s =>
    match realOfText? s.toList with
    | some x => .ok x
    | none => .issue .realParsing
  | _ => .issue .realType

def flagOfText? (text : String) : Option Bool :=
  let word := String.ofList (text.toList.map Char.toLower)
  if ["0", "off", "f", "false", "n", "no"].contains word then some false
  else if ["1", "on", "t", "true", "y", "yes"].contains word then some true
  else none

/-- A flag: also 0 and 1, and the usual words in any case. -/
def flag : Reader Bool
  | .bool b => .ok b
  | .number n =>
    if n.eq 0 then .ok false else if n.eq 1 then .ok true
    else
      match whole (.number n) with
      | .ok n => if n.natAbs < 0x8000000000000000 then .issue .flagParsing else .issue .flagType
      | .bad _ => .issue .flagType
  | .str s =>
    match flagOfText? s with
    | some b => .ok b
    | none => .issue .flagParsing
  | _ => .issue .flagType

def text : Reader String
  | .str s => .ok s
  | _ => .issue .textType

/-- A text that is not empty. -/
def someText : Reader String := fun value =>
  (text value).andThen fun s => if s.isEmpty then .issue .textTooShort else .ok s

/-- A whole number that is at least some bound. -/
def wholeAtLeast (least : Int) : Reader Int := fun value =>
  (whole value).andThen fun n => if n < least then .issue .tooSmall else .ok n

/-- A whole number above some bound. -/
def wholeAbove (bound : Int) : Reader Int := fun value =>
  (whole value).andThen fun n => if bound < n then .ok n else .issue .notGreater

/-- One of the values that texts stand for. -/
def choice {α : Type} (choices : List (String × α)) : Reader α
  | .str s =>
    match choices.lookup s with
    | some value => .ok value
    | none => .issue .choice
  | _ => .issue .choice

/-- A moment: a text of one, of a date, or of a count; or a count of seconds. -/
def moment : Reader Moment
  | .str s =>
    let text := s.toList
    match Moment.readDateTime? text with
    | some moment => .ok moment
    | none =>
      let count := (plainWhole? text).map Number.whole
      match count.orElse fun _ => (plainReal? text).map Number.real with
      | some count =>
        match Moment.ofNumber? count with
        | some moment => .ok moment
        | none => .issue .momentFromDate
      | none =>
        match Moment.readDate? text with
        | some (date, []) => .ok ⟨date.toDays * Moment.microsPerDay, none⟩
        | _ => .issue .momentFromDate
  | .number n =>
    match Moment.ofNumber? n with
    | some moment => .ok moment
    | none => .issue .momentParsing
  | _ => .issue .momentType

end Curation.Decode
