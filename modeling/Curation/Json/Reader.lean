import Curation.Json.Basic
import Curation.Text.Hex

/-!
Reading JSON text. The reader accepts the JSON grammar together with `NaN`, `Infinity` and
`-Infinity`, keeps integers of any size exact, and reports where the text first departs from the
grammar. Control characters may not stand unescaped in a string. Each function takes the text still
to be read and returns what is left of it.
-/
namespace Curation.Json

/-- What is wrong with a text. -/
inductive FaultKind where
  | expectedValue
  | expectedName
  | expectedColon
  | expectedComma
  | extraData
  | unterminatedString
  | controlCharacter
  | invalidEscape
  | invalidCodeUnit
  | byteOrderMark
  deriving DecidableEq, Repr

/-- A departure from the grammar, with the number of characters from it to the end of the text. -/
structure Fault where
  kind : FaultKind
  remaining : Nat
  deriving DecidableEq, Repr

def fail {α : Type} (kind : FaultKind) (rest : List Char) : Except Fault (α × List Char) :=
  .error ⟨kind, rest.length⟩

def isBlank (c : Char) : Bool := c == ' ' || c == '\t' || c == '\n' || c == '\r'

def skipBlank (text : List Char) : List Char := text.dropWhile isBlank

/-- The code unit written with four hexadecimal digits. -/
def codeUnit? (a b c d : Char) : Option Nat := do
  let w ← Text.hexValue? a
  let x ← Text.hexValue? b
  let y ← Text.hexValue? c
  let z ← Text.hexValue? d
  return ((w * 16 + x) * 16 + y) * 16 + z

def isHighSurrogate (unit : Nat) : Bool := 0xD800 ≤ unit && unit ≤ 0xDBFF

def isLowSurrogate (unit : Nat) : Bool := 0xDC00 ≤ unit && unit ≤ 0xDFFF

/-- The character of a code unit; half of a surrogate pair becomes the replacement character. -/
def charOfUnit (unit : Nat) : Char :=
  if isHighSurrogate unit || isLowSurrogate unit then '\ufffd' else Char.ofNat unit

/-- The character written by a surrogate pair. -/
def charOfPair (high low : Nat) : Char :=
  Char.ofNat (0x10000 + (high - 0xD800) * 1024 + (low - 0xDC00))

/-- The character that a one-letter escape stands for. -/
def escaped? : Char → Option Char
  | '"' => some '"'
  | '\\' => some '\\'
  | '/' => some '/'
  | 'b' => some '\x08'
  | 'f' => some '\x0c'
  | 'n' => some '\n'
  | 'r' => some '\r'
  | 't' => some '\t'
  | _ => none

/-- Reads a string from behind its opening quote. `opening` counts the characters from that quote to
the end of the text, and `seen` holds the characters read so far, last first. -/
def readString (opening : Nat) (seen : List Char) : List Char → Except Fault (String × List Char)
  | [] => .error ⟨.unterminatedString, opening⟩
  | '"' :: rest => .ok (String.ofList seen.reverse, rest)
  | ['\\'] => .error ⟨.unterminatedString, opening⟩
  | '\\' :: 'u' :: a :: b :: c :: d :: '\\' :: 'u' :: e :: f :: g :: h :: after :: tail =>
    match codeUnit? a b c d with
    | none => .error ⟨.invalidCodeUnit, tail.length + 12⟩
    | some unit =>
      if isHighSurrogate unit then
        match codeUnit? e f g h with
        | none => .error ⟨.invalidCodeUnit, tail.length + 6⟩
        | some low =>
          if isLowSurrogate low then
            readString opening (charOfPair unit low :: seen) (after :: tail)
          else readString opening (charOfUnit unit :: seen)
            ('\\' :: 'u' :: e :: f :: g :: h :: after :: tail)
      else readString opening (charOfUnit unit :: seen)
        ('\\' :: 'u' :: e :: f :: g :: h :: after :: tail)
  | '\\' :: 'u' :: a :: b :: c :: d :: next :: rest =>
    match codeUnit? a b c d with
    | none => .error ⟨.invalidCodeUnit, rest.length + 6⟩
    | some unit => readString opening (charOfUnit unit :: seen) (next :: rest)
  | '\\' :: 'u' :: rest => .error ⟨.invalidCodeUnit, rest.length + 1⟩
  | '\\' :: letter :: rest =>
    match escaped? letter with
    | none => .error ⟨.invalidEscape, rest.length + 2⟩
    | some c => readString opening (c :: seen) rest
  | c :: rest =>
    if c.toNat < 0x20 then .error ⟨.controlCharacter, rest.length + 1⟩
    else readString opening (c :: seen) rest
termination_by text => text.length

/-- The value of a run of decimal digits. -/
def digitsValue (digits : List Char) : Nat :=
  digits.foldl (fun n c => 10 * n + (c.toNat - '0'.toNat)) 0

def isDigit (c : Char) : Bool := '0' ≤ c && c ≤ '9'

/-- The longest run of digits at the front, and the rest. -/
def takeDigits (text : List Char) : List Char × List Char :=
  (text.takeWhile isDigit, text.dropWhile isDigit)

/-- The digits behind a point, when a digit follows it. -/
def readFraction (text : List Char) : List Char × List Char :=
  match text with
  | '.' :: d :: rest => if isDigit d then takeDigits (d :: rest) else ([], text)
  | _ => ([], text)

/-- The exponent part, when it has a digit. -/
def readExponent (text : List Char) : Option Int × List Char :=
  match text with
  | e :: rest =>
    if e == 'e' || e == 'E' then
      let (negative, digitsAt) := match rest with
        | '-' :: tail => (true, tail)
        | '+' :: tail => (false, tail)
        | _ => (false, rest)
      match takeDigits digitsAt with
      | ([], _) => (none, text)
      | (digits, tail) =>
        let size : Int := digitsValue digits
        (some (if negative then -size else size), tail)
    else (none, text)
  | [] => (none, text)

/-- The whole part: a lone zero, or a run of digits that starts with another one. -/
def readWhole : List Char → Option (List Char × List Char)
  | '0' :: rest => some (['0'], rest)
  | c :: rest => if isDigit c then some (takeDigits (c :: rest)) else none
  | [] => none

/-- The number that the parts of a literal stand for. -/
def numberOf (negative : Bool) (whole fraction : List Char) (exponent : Option Int) : Number :=
  if fraction.isEmpty ∧ exponent.isNone then
    let size : Int := digitsValue whole
    .whole (if negative then -size else size)
  else
    .real (Binary64.ofDecimal negative (digitsValue (whole ++ fraction))
      (exponent.getD 0 - fraction.length))

/-- Reads a number literal. A text that starts none is a missing value. -/
def readNumber (text : List Char) : Except Fault (Json × List Char) :=
  let (negative, body) := match text with
    | '-' :: rest => (true, rest)
    | _ => (false, text)
  match readWhole body with
  | none => fail .expectedValue text
  | some (whole, rest) =>
    let (fraction, rest) := readFraction rest
    let (exponent, rest) := readExponent rest
    .ok (.number (numberOf negative whole fraction exponent), rest)

/-- Reads a value that has no parts. -/
def readScalar (text : List Char) : Except Fault (Json × List Char) :=
  match text with
  | 'n' :: 'u' :: 'l' :: 'l' :: rest => .ok (.null, rest)
  | 't' :: 'r' :: 'u' :: 'e' :: rest => .ok (.bool true, rest)
  | 'f' :: 'a' :: 'l' :: 's' :: 'e' :: rest => .ok (.bool false, rest)
  | 'N' :: 'a' :: 'N' :: rest => .ok (.number (.real .nan), rest)
  | 'I' :: 'n' :: 'f' :: 'i' :: 'n' :: 'i' :: 't' :: 'y' :: rest =>
    .ok (.number (.real (.infinity false)), rest)
  | '-' :: 'I' :: 'n' :: 'f' :: 'i' :: 'n' :: 'i' :: 't' :: 'y' :: rest =>
    .ok (.number (.real (.infinity true)), rest)
  | _ => readNumber text

mutual
/-- Reads a value; `fuel` bounds the number of calls and the length of the text suffices. -/
def readValue : Nat → List Char → Except Fault (Json × List Char)
  | 0, text => fail .expectedValue text
  | fuel + 1, text =>
    match text with
    | '"' :: rest => do
      let (s, rest) ← readString (rest.length + 1) [] rest
      return (.str s, rest)
    | '[' :: rest =>
      match skipBlank rest with
      | ']' :: rest => .ok (.arr [], rest)
      | rest => do
        let (items, rest) ← readItems fuel rest
        return (.arr items, rest)
    | '\x7b' :: rest =>
      match skipBlank rest with
      | '\x7d' :: rest => .ok (.obj [], rest)
      | rest => do
        let (pairs, rest) ← readPairs fuel rest
        return (.obj (Members.ofPairs pairs), rest)
    | text => readScalar text

/-- Reads the items of a list up to its closing bracket. -/
def readItems : Nat → List Char → Except Fault (List Json × List Char)
  | 0, text => fail .expectedValue text
  | fuel + 1, text => do
    let (item, rest) ← readValue fuel text
    match skipBlank rest with
    | ']' :: rest => return ([item], rest)
    | ',' :: rest =>
      let (items, rest) ← readItems fuel (skipBlank rest)
      return (item :: items, rest)
    | rest => fail .expectedComma rest

/-- Reads the members of an object up to its closing brace. -/
def readPairs : Nat → List Char → Except Fault (List (String × Json) × List Char)
  | 0, text => fail .expectedName text
  | fuel + 1, text =>
    match text with
    | '"' :: rest => do
      let (name, rest) ← readString (rest.length + 1) [] rest
      match skipBlank rest with
      | ':' :: rest =>
        let (value, rest) ← readValue fuel (skipBlank rest)
        match skipBlank rest with
        | '\x7d' :: rest => return ([(name, value)], rest)
        | ',' :: rest =>
          let (pairs, rest) ← readPairs fuel (skipBlank rest)
          return ((name, value) :: pairs, rest)
        | rest => fail .expectedComma rest
      | rest => fail .expectedColon rest
    | text => fail .expectedName text
end

/-- Reads a whole text as one value, with blanks allowed around it. -/
def read (text : String) : Except Fault Json := do
  let chars := text.toList
  match chars with
  | '\ufeff' :: _ => .error ⟨.byteOrderMark, chars.length⟩
  | _ =>
    let (value, rest) ← readValue (chars.length + 1) (skipBlank chars)
    match skipBlank rest with
    | [] => return value
    | rest => .error ⟨.extraData, rest.length⟩

/-- Whether an escape in a text stands for half of a surrogate pair. No backslash can stand outside
the strings of a text that reads as a value, so it does not matter where they begin. -/
def writesHalf : List Char → Bool
  | [] => false
  | '\\' :: 'u' :: a :: b :: c :: d :: rest =>
    match codeUnit? a b c d with
    | none => writesHalf rest
    | some unit =>
      if isHighSurrogate unit then
        match rest with
        | '\\' :: 'u' :: e :: f :: g :: h :: tail =>
          !(codeUnit? e f g h).any isLowSurrogate || writesHalf tail
        | _ => true
      else isLowSurrogate unit || writesHalf rest
  | '\\' :: _ :: rest => writesHalf rest
  | _ :: rest => writesHalf rest

/-- Reads a whole text that writes whole characters only. -/
def value? (text : String) : Option Json :=
  if writesHalf text.toList then none else (read text).toOption

/-- How many characters stand before a fault in the text that it was found in. -/
def Fault.offset (fault : Fault) (text : String) : Nat := text.length - fault.remaining

def FaultKind.words : FaultKind → String
  | .expectedValue => "Expecting value"
  | .expectedName => "Expecting property name enclosed in double quotes"
  | .expectedColon => "Expecting ':' delimiter"
  | .expectedComma => "Expecting ',' delimiter"
  | .extraData => "Extra data"
  | .unterminatedString => "Unterminated string starting at"
  | .controlCharacter => "Invalid control character at"
  | .invalidEscape => "Invalid \\escape"
  | .invalidCodeUnit => "Invalid \\uXXXX escape"
  | .byteOrderMark => "Unexpected UTF-8 BOM (decode using utf-8-sig)"

/-- What is wrong and where, with lines and columns counted from one. -/
def Fault.message (fault : Fault) (text : String) : String :=
  let before := text.toList.take (fault.offset text)
  let line := before.count '\n' + 1
  let column := (before.reverse.takeWhile (· ≠ '\n')).length + 1
  s!"{fault.kind.words}: line {line} column {column} (char {fault.offset text})"

end Curation.Json
