import Curation.Pattern.Syntax
import Curation.Text.Hex

/-!
Reading patterns. The reader goes through the text once, keeping the open groups; every fault names
the part of the pattern that it lies in. Lengths of what is left bound all loops.
-/
namespace Curation.Pattern

/-- Settings that a pattern may change from within. -/
structure Flags where
  fold : Bool
  lines : Bool := false
  dotAll : Bool := false
  deriving Repr

/-- An open group: the alternatives completed, the items of the current one (last first), and the
settings to go back to. -/
structure Group where
  done : List Expr
  items : List Expr
  outer : Flags

/-- What has been read. -/
structure State where
  flags : Flags
  group : Group
  around : List Group

abbrev Outcome := Except Fault

def fault {α : Type} (kind : FaultKind) (part : List Char) : Outcome α := .error ⟨kind, part⟩

/-- The characters of `text` that stand before `rest`, a tail of it. -/
def upTo (text rest : List Char) : List Char := text.take (text.length - rest.length)

/-- Items in order as one expression. -/
def Group.sequence (group : Group) : Expr :=
  match group.items with
  | [] => .empty
  | last :: earlier => earlier.foldl (fun tail item => .sequence item tail) last

/-- The alternatives of a group as one expression. -/
def Group.expr (group : Group) : Expr :=
  group.done.foldl (fun tail choice => .either choice tail) group.sequence

def State.push (state : State) (item : Expr) : State :=
  { state with group := { state.group with items := item :: state.group.items } }

/-- A set as the settings have it. -/
def State.charset (state : State) (set : Charset) : Charset :=
  if state.flags.fold then set.folded else set

def State.pushCode (state : State) (code : Nat) : State :=
  state.push (.chars (state.charset [(code, code)]))

def State.openGroup (state : State) (inner : Flags) : State :=
  { flags := inner, group := ⟨[], [], state.flags⟩, around := state.group :: state.around }

def State.nextChoice (state : State) : State :=
  { state with group := { state.group with done := state.group.sequence :: state.group.done,
                                           items := [] } }

/-- Closes a group; none when no group is open. -/
def State.closeGroup? (state : State) : Option State :=
  match state.around with
  | [] => none
  | outer :: around =>
    some { flags := state.group.outer,
           group := { outer with items := state.group.expr :: outer.items }, around }

/-- Replaces the last item; none when there is none to repeat. -/
def State.repeatLast? (state : State) (wrap : Expr → Expr) : Option State :=
  match state.group.items with
  | [] => none
  | last :: earlier =>
    some { state with group := { state.group with items := wrap last :: earlier } }

def isDigit (c : Char) : Bool := '0' ≤ c && c ≤ '9'

def isOctal (c : Char) : Bool := '0' ≤ c && c ≤ '7'

/-- A count without a leading zero and below ten digits. -/
def readCount? (text : List Char) : Option (Nat × List Char) :=
  let digits := text.takeWhile isDigit
  match digits with
  | [] => none
  | '0' :: _ :: _ => none
  | _ => if 9 < digits.length then none
    else some (digits.foldl (fun n c => 10 * n + (c.toNat - '0'.toNat)) 0, text.dropWhile isDigit)

/-- The counts in braces behind an opening one; none when the brace stands for itself. -/
def readBraces? (text : List Char) : Option (Nat × Option Nat × List Char) := do
  let (least, rest) ← readCount? text
  match rest with
  | '\x7d' :: rest => some (least, some least, rest)
  | ',' :: '\x7d' :: rest => some (least, none, rest)
  | ',' :: rest =>
    let (most, rest) ← readCount? rest
    match rest with
    | '\x7d' :: rest => some (least, some most, rest)
    | _ => none
  | _ => none

/-- Reads hexadecimal digits up to a closing brace; `count` digits came before. -/
def readHexBraces (begin : List Char) (value count : Nat) : List Char → Outcome (Nat × List Char)
  | [] => if count = 0 then fault .badEncoding [] else fault .badEscape begin
  | c :: rest =>
    match Text.hexValue? c with
    | some d =>
      let value := 16 * value + d
      if greatestCode < value then fault .badEscape (upTo begin rest)
      else if rest.isEmpty then fault .badEscape begin
      else readHexBraces begin value (count + 1) rest
    | none =>
      if c = '\x7d' ∧ 0 < count then .ok (value, rest) else fault .badEscape (upTo begin rest)

/-- Up to two more octal digits. -/
def readOctal (value : Nat) (text : List Char) : Nat × List Char :=
  let step (value : Nat) (c : Char) : Nat := 8 * value + (c.toNat - '0'.toNat)
  match text with
  | a :: b :: rest =>
    if isOctal a && isOctal b then (step (step value a) b, rest)
    else if isOctal a then (step value a, b :: rest)
    else (value, text)
  | [a] => if isOctal a then (step value a, []) else (value, text)
  | [] => (value, [])

def isAsciiWord (c : Char) : Bool := c.isAlphanum || c == '_'

/-- Reads an escaped character from its backslash on. -/
def readEscape (text : List Char) : Outcome (Nat × List Char) :=
  match text with
  | [] | [_] => fault .trailingBackslash []
  | _ :: 'x' :: rest =>
    match rest with
    | [] => fault .badEscape text
    | '\x7b' :: rest => readHexBraces text 0 0 rest
    | [_] => fault .badEscape text
    | a :: b :: rest =>
      match Text.hexValue? a, Text.hexValue? b with
      | some x, some y => .ok (16 * x + y, rest)
      | _, _ => fault .badEscape (upTo text rest)
  | _ :: c :: rest =>
    let simple : Option Nat := match c with
      | 'n' => some 0x0a
      | 'r' => some 0x0d
      | 't' => some 0x09
      | 'a' => some 0x07
      | 'f' => some 0x0c
      | 'v' => some 0x0b
      | _ => none
    match simple with
    | some code => .ok (code, rest)
    | none =>
      if isOctal c then
        let follows := match rest with
          | d :: _ => isOctal d
          | [] => false
        if c = '0' || follows then .ok (readOctal (c.toNat - '0'.toNat) rest)
        else fault .badEscape (upTo text rest)
      else if c.toNat < 128 ∧ (!isAsciiWord c || c == '_') then .ok (c.toNat, rest)
      else fault .badEscape (upTo text rest)

def digitSet : Charset := [(0x30, 0x39)]

def spaceSet : Charset := [(0x09, 0x0a), (0x0c, 0x0d), (0x20, 0x20)]

def wordSet : Charset := [(0x30, 0x39), (0x41, 0x5a), (0x5f, 0x5f), (0x61, 0x7a)]

/-- The set and the sign of a one-letter class. -/
def letterClass? : Char → Option (Charset × Bool)
  | 'd' => some (digitSet, true)
  | 'D' => some (digitSet, false)
  | 's' => some (spaceSet, true)
  | 'S' => some (spaceSet, false)
  | 'w' => some (wordSet, true)
  | 'W' => some (wordSet, false)
  | _ => none

/-- The set of a class named in brackets and colons. -/
def bracketClass? : String → Option Charset
  | "alnum" => some [(0x30, 0x39), (0x41, 0x5a), (0x61, 0x7a)]
  | "alpha" => some [(0x41, 0x5a), (0x61, 0x7a)]
  | "ascii" => some [(0x00, 0x7f)]
  | "blank" => some [(0x09, 0x09), (0x20, 0x20)]
  | "cntrl" => some [(0x00, 0x1f), (0x7f, 0x7f)]
  | "digit" => some digitSet
  | "graph" => some [(0x21, 0x7e)]
  | "lower" => some [(0x61, 0x7a)]
  | "print" => some [(0x20, 0x7e)]
  | "punct" => some [(0x21, 0x2f), (0x3a, 0x40), (0x5b, 0x60), (0x7b, 0x7e)]
  | "space" => some [(0x09, 0x0d), (0x20, 0x20)]
  | "upper" => some [(0x41, 0x5a)]
  | "word" => some wordSet
  | "xdigit" => some [(0x30, 0x39), (0x41, 0x46), (0x61, 0x66)]
  | _ => none

/-- A named set with its sign; folding comes before taking the complement. -/
def State.signed (state : State) (set : Charset) (positive : Bool) : Charset :=
  let set := state.charset set
  if positive then set else set.complement

/-- Reads a property class from its backslash on: `\pL`, `\p{Greek}`, `\P{^Lu}`. -/
def readProperty (state : State) (text : List Char) : Outcome (Charset × List Char) :=
  match text with
  | _ :: sign :: rest =>
    let finish (name : List Char) (rest : List Char) : Outcome (Charset × List Char) :=
      let (positive, name) := match name with
        | '^' :: name => (sign != 'p', name)
        | _ => (sign == 'p', name)
      match named? (String.ofList name) with
      | some set => .ok (state.signed set positive, rest)
      | none => fault .badRange (upTo text rest)
    match rest with
    | [] => fault .badEncoding []
    | '\x7b' :: inner =>
      match inner.dropWhile (· ≠ '\x7d') with
      | [] => fault .badRange text
      | _ :: rest => finish (inner.takeWhile (· ≠ '\x7d')) rest
    | c :: rest => finish [c] rest
  | _ => fault .badEncoding []

/-- The name between `[:` and `:]`, and what follows; none when it is not closed. -/
def bracketName? : List Char → Option (List Char × List Char)
  | ':' :: ']' :: rest => some ([], rest)
  | c :: rest => (bracketName? rest).map fun (name, rest) => (c :: name, rest)
  | [] => none

/-- Reads one character of a bracketed class; `whole` is the class from its bracket on. -/
def readClassChar (whole text : List Char) : Outcome (Nat × List Char) :=
  match text with
  | [] => fault .missingBracket whole
  | '\\' :: _ => readEscape text
  | c :: rest => .ok (c.toNat, rest)

/-- Reads a character or a range of a bracketed class. -/
def readClassRange (whole text : List Char) : Outcome ((Nat × Nat) × List Char) := do
  let (low, rest) ← readClassChar whole text
  match rest with
  | '-' :: c :: tail =>
    if c = ']' then .ok ((low, low), rest)
    else
      let (high, tail) ← readClassChar whole (c :: tail)
      if high < low then fault .badRange (upTo text tail) else .ok ((low, high), tail)
  | _ => .ok ((low, low), rest)

/-- One element of a bracketed class. -/
def readClassItem (state : State) (whole text : List Char) : Outcome (Charset × List Char) := do
  let plain : Outcome (Charset × List Char) := do
    let (range, rest) ← readClassRange whole text
    .ok (state.charset [range], rest)
  match text with
  | '[' :: ':' :: inner =>
    match bracketName? inner with
    | none => plain
    | some (name, rest) =>
      let (positive, bare) := match name with
        | '^' :: bare => (false, bare)
        | _ => (true, name)
      match bracketClass? (String.ofList bare) with
      | some set => .ok (state.signed set positive, rest)
      | none => fault .badRange (upTo text rest)
  | '\\' :: c :: rest =>
    if (c = 'p' ∨ c = 'P') ∧ !rest.isEmpty then readProperty state text
    else
      match letterClass? c with
      | some (set, positive) => .ok (state.signed set positive, rest)
      | none => plain
  | _ => plain

/-- Reads the elements of a bracketed class up to its closing bracket. -/
def readClassItems (state : State) (whole : List Char) :
    Nat → Bool → Charset → List Char → Outcome (Charset × List Char)
  | 0, _, _, _ => fault .missingBracket whole
  | fuel + 1, first, set, text =>
    match text with
    | [] => fault .missingBracket whole
    | c :: rest =>
      if c = ']' ∧ !first then .ok (set, rest)
      else do
        let (more, rest) ← readClassItem state whole text
        readClassItems state whole fuel false (set ++ more) rest

/-- Reads a bracketed class from its opening bracket on. -/
def readClass (state : State) (text : List Char) : Outcome (Charset × List Char) :=
  match text with
  | _ :: '^' :: rest => do
    let (set, rest) ← readClassItems state text (rest.length + 1) true [] rest
    .ok (set.complement, rest)
  | _ :: rest => readClassItems state text (rest.length + 1) true [] rest
  | [] => fault .missingBracket text

/-- Characters that may stand in the name of a group: word characters and marks. -/
def nameSet : Ranges :=
  let kinds := ["Lu", "Ll", "Lt", "Lm", "Lo", "Nl", "Mn", "Mc", "Nd", "Pc"]
  ⟨(select kinds.contains categories).toArray⟩

def isGroupName (name : List Char) : Bool := !name.isEmpty && name.all nameSet.contains

/-- Reads the letters behind `(?` up to a colon or a closing parenthesis. -/
def readFlags (state : State) (begin : List Char) (flags : Flags) (negated seen : Bool) :
    List Char → Outcome (State × List Char)
  | [] => fault .badOperator begin
  | c :: rest =>
    let bad : Outcome (State × List Char) := fault .badOperator (upTo begin rest)
    match c with
    | 'i' => readFlags state begin { flags with fold := !negated } negated true rest
    | 'm' => readFlags state begin { flags with lines := !negated } negated true rest
    | 's' => readFlags state begin { flags with dotAll := !negated } negated true rest
    | 'U' => readFlags state begin flags negated true rest
    | '-' => if negated then bad else readFlags state begin flags true false rest
    | ':' => if negated && !seen then bad else .ok (state.openGroup flags, rest)
    | ')' => if negated && !seen then bad else .ok ({ state with flags }, rest)
    | _ => bad

/-- Reads what follows an opening parenthesis with a question mark. -/
def readOperator (state : State) (text : List Char) : Outcome (State × List Char) :=
  let named (name tail : List Char) : Outcome (State × List Char) :=
    match tail with
    | [] => fault .badGroupName text
    | _ :: rest =>
      if isGroupName name then .ok (state.openGroup state.flags, rest)
      else fault .badGroupName (upTo text rest)
  let split (inner : List Char) : Outcome (State × List Char) :=
    named (inner.takeWhile (· ≠ '>')) (inner.dropWhile (· ≠ '>'))
  match text with
  | '(' :: '?' :: '=' :: _ => fault .badOperator (text.take 3)
  | '(' :: '?' :: '!' :: _ => fault .badOperator (text.take 3)
  | '(' :: '?' :: '<' :: '=' :: _ => fault .badOperator (text.take 4)
  | '(' :: '?' :: '<' :: '!' :: _ => fault .badOperator (text.take 4)
  | '(' :: '?' :: 'P' :: '<' :: inner => split inner
  | '(' :: '?' :: '<' :: inner => split inner
  | _ => readFlags state text state.flags false false (text.drop 2)

/-- Every literal up to `\E` or the end. -/
def readQuoted (state : State) : List Char → State × List Char
  | '\\' :: 'E' :: rest => (state, rest)
  | c :: rest => readQuoted (state.pushCode c.toNat) rest
  | [] => (state, [])

/-- Reads an item from its backslash on. -/
def readBackslash (state : State) (text : List Char) : Outcome (State × List Char) :=
  match text with
  | _ :: 'b' :: rest => .ok (state.push (.place .wordEdge), rest)
  | _ :: 'B' :: rest => .ok (state.push (.place .noWordEdge), rest)
  | _ :: 'A' :: rest => .ok (state.push (.place .textStart), rest)
  | _ :: 'z' :: rest => .ok (state.push (.place .textEnd), rest)
  | _ :: 'C' :: rest => .ok (state.push .anyByte, rest)
  | _ :: 'Q' :: rest => .ok (readQuoted state rest)
  | _ :: c :: rest =>
    if c = 'p' ∨ c = 'P' then do
      let (set, rest) ← readProperty state text
      .ok (state.push (.chars set), rest)
    else
      match letterClass? c with
      | some (set, positive) => .ok (state.push (.chars (state.signed set positive)), rest)
      | none => do
        let (code, rest) ← readEscape text
        .ok (state.pushCode code, rest)
  | _ => fault .trailingBackslash []

/-- Applies a repetition that was written from `text` up to `rest`. -/
def State.repetition (state : State) (lastUnary : Option (List Char)) (text rest : List Char)
    (wrap : Expr → Expr) : Outcome (State × List Char × List Char) :=
  let rest := match rest with
    | '?' :: tail => tail
    | _ => rest
  match lastUnary with
  | some earlier => fault .repeatOperator (upTo earlier rest)
  | none =>
    match state.repeatLast? wrap with
    | none => fault .repeatArgument (upTo text rest)
    | some state => .ok (state, text, rest)

/-- Reads items until the text ends. `lastUnary` is the text from the repetition just read on. -/
def readItems : Nat → State → Option (List Char) → List Char → Outcome State
  | 0, state, _, _ => .ok state
  | fuel + 1, state, lastUnary, text =>
    let unary (step : Outcome (State × List Char × List Char)) : Outcome State := do
      let (state, from_, rest) ← step
      readItems fuel state (some from_) rest
    match text with
    | [] => .ok state
    | '(' :: '?' :: _ => do
      let (state, rest) ← readOperator state text
      readItems fuel state none rest
    | '(' :: rest => readItems fuel (state.openGroup state.flags) none rest
    | '|' :: rest => readItems fuel state.nextChoice none rest
    | ')' :: rest =>
      match state.closeGroup? with
      | some state => readItems fuel state none rest
      | none => fault .unexpectedParen []
    | '^' :: rest =>
      readItems fuel (state.push (.place (if state.flags.lines then .lineStart else .textStart)))
        none rest
    | '$' :: rest =>
      readItems fuel (state.push (.place (if state.flags.lines then .lineEnd else .textEnd)))
        none rest
    | '.' :: rest =>
      let set : Charset := if state.flags.dotAll then [(0, greatestCode)]
        else [(0, 0x09), (0x0b, greatestCode)]
      readItems fuel (state.push (.chars set)) none rest
    | '[' :: _ => do
      let (set, rest) ← readClass state text
      readItems fuel (state.push (.chars set)) none rest
    | '*' :: rest => unary (state.repetition lastUnary text rest .star)
    | '+' :: rest => unary (state.repetition lastUnary text rest .plus)
    | '?' :: rest => unary (state.repetition lastUnary text rest .maybe)
    | '\x7b' :: rest =>
      match readBraces? rest with
      | none => readItems fuel (state.pushCode 0x7b) none rest
      | some (least, most, rest) =>
        let size : Outcome State → Outcome State := fun next =>
          let after := match rest with
            | '?' :: tail => tail
            | _ => rest
          let badSize : Outcome State := fault .repeatSize (upTo text after)
          if lastUnary.isSome then next
          else if greatestCount < least || greatestCount < most.getD 0
              || (most.isSome && most.getD 0 < least) then badSize
          else
            match state.group.items with
            | [] => next
            | last :: _ =>
              if (2 ≤ least || 2 ≤ most.getD 0)
                  && (Expr.counted last least most).budget greatestCount = 0 then badSize
              else next
        size (unary (state.repetition lastUnary text rest fun body => .counted body least most))
    | '\\' :: _ => do
      let (state, rest) ← readBackslash state text
      readItems fuel state none rest
    | c :: rest => readItems fuel (state.pushCode c.toNat) none rest

/-- The expression that a pattern stands for. -/
def parse (pattern : String) (ignoreCase : Bool) : Outcome Expr :=
  let text := pattern.toList
  let flags : Flags := { fold := ignoreCase }
  match readItems (text.length + 1) ⟨flags, ⟨[], [], flags⟩, []⟩ none text with
  | .error ⟨.unexpectedParen, _⟩ => fault .unexpectedParen text
  | .error e => .error e
  | .ok state => if state.around.isEmpty then .ok state.group.expr else fault .missingParen text

end Curation.Pattern
