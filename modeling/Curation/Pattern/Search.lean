import Curation.Pattern.Parser

/-!
Searching a text for an expression. The expression becomes a list of instructions, and all places
that a run can be in advance together, byte by byte, so the time grows with the product of the two
lengths and never faster.
-/
namespace Curation.Pattern

inductive Instruction where
  | chars (set : Ranges) (next : Nat)
  | anyByte (next : Nat)
  | place (place : Place) (next : Nat)
  | split (first second : Nat)
  | done

abbrev Program := Array Instruction

/-- Puts an instruction at the end and returns its index. -/
def emit (program : Program) (instruction : Instruction) : Program × Nat :=
  (program.push instruction, program.size)

/-- Applies a step so many times. -/
def times {α : Type} (step : α → α) : Nat → α → α
  | 0, x => x
  | n + 1, x => times step n (step x)

/-- Instructions for an expression that go on at `next`, and where they start. -/
def compile (expr : Expr) (program : Program) (next : Nat) : Program × Nat :=
  let loop (body : Program → Nat → Program × Nat) (program : Program) (next : Nat) :
      Program × Nat × Nat :=
    let (program, again) := emit program .done
    let (program, start) := body program again
    (program.set! again (.split start next), again, start)
  match expr with
  | .empty => (program, next)
  | .chars set =>
    emit program (.chars ⟨(Charset.complement (Charset.complement set)).toArray⟩ next)
  | .anyByte => emit program (.anyByte next)
  | .place p => emit program (.place p next)
  | .sequence a b =>
    let (program, next) := compile b program next
    compile a program next
  | .either a b =>
    let (program, second) := compile b program next
    let (program, first) := compile a program next
    emit program (.split first second)
  | .star a =>
    let (program, again, _) := loop (compile a) program next
    (program, again)
  | .plus a =>
    let (program, _, start) := loop (compile a) program next
    (program, start)
  | .maybe a =>
    let (program, start) := compile a program next
    emit program (.split start next)
  | .counted a least most =>
    let (program, next) := match most with
      | none =>
        let (program, again, _) := loop (compile a) program next
        (program, again)
      | some most =>
        times (fun (program, after) =>
          let (program, start) := compile a program after
          emit program (.split start next)) (most - least) (program, next)
    times (fun (program, next) => compile a program next) least (program, next)

/-- A place between two bytes: the byte before and the byte behind, if any. -/
structure Gap where
  before : Option UInt8
  behind : Option UInt8

def isWordByte (byte : Option UInt8) : Bool :=
  match byte with
  | some b => isAsciiWord (Char.ofNat b.toNat)
  | none => false

def Place.holds (place : Place) (gap : Gap) : Bool :=
  match place with
  | .textStart => gap.before.isNone
  | .textEnd => gap.behind.isNone
  | .lineStart => gap.before.isNone || gap.before == some 0x0a
  | .lineEnd => gap.behind.isNone || gap.behind == some 0x0a
  | .wordEdge => isWordByte gap.before != isWordByte gap.behind
  | .noWordEdge => isWordByte gap.before == isWordByte gap.behind

/-- Adds to the instructions reached those that can be reached from `todo` without reading. -/
def reach (program : Program) (gap : Gap) : Nat → Array Bool → List Nat → List Nat →
    Array Bool × List Nat
  | 0, seen, active, _ => (seen, active)
  | _, seen, active, [] => (seen, active)
  | fuel + 1, seen, active, index :: todo =>
    if seen[index]?.getD true then reach program gap fuel seen active todo
    else
      let seen := seen.set! index true
      match program[index]? with
      | some (.split first second) => reach program gap fuel seen active (first :: second :: todo)
      | some (.place place next) =>
        if place.holds gap then reach program gap fuel seen active (next :: todo)
        else reach program gap fuel seen active todo
      | some _ => reach program gap fuel seen (index :: active) todo
      | none => reach program gap fuel seen active todo

/-- A byte of a text, with the character that starts at it and the bytes that this one takes. -/
structure Cell where
  byte : UInt8
  start : Option (Nat × Nat)

/-- The cells of a character. -/
def cellsOf (c : Char) : List Cell :=
  match (String.singleton c).toUTF8.toList with
  | [] => []
  | first :: rest => ⟨first, some (c.toNat, rest.length + 1)⟩ :: rest.map fun byte => ⟨byte, none⟩

/-- What an instruction leads to at a cell: how many bytes on, and where to go. -/
def advance (program : Program) (cell : Cell) (index : Nat) : Option (Nat × Nat) :=
  match program[index]? with
  | some (.chars set next) =>
    match cell.start with
    | some (code, width) => if (set.find? code).isSome then some (width, next) else none
    | none => none
  | some (.anyByte next) => some (1, next)
  | _ => none

/-- Runs the program over cells. `waiting` holds what is due at this byte and at later ones. -/
def run (program : Program) (start finish : Nat) (before : Option UInt8)
    (waiting : List (List Nat)) : List Cell → Bool
  | [] =>
    let (_, active) := reach program ⟨before, none⟩ (3 * program.size + 3)
      (Array.replicate program.size false) [] (start :: waiting.headD [])
    active.contains finish
  | cell :: rest =>
    let (_, active) := reach program ⟨before, some cell.byte⟩
      (3 * program.size + 3 + (waiting.headD []).length)
      (Array.replicate program.size false) [] (start :: waiting.headD [])
    if active.contains finish then true
    else
      let moves := active.filterMap (advance program cell)
      let due (later : Nat) : List Nat :=
        (waiting.drop later).headD [] ++ (moves.filter (fun m => m.1 == later)).map (·.2)
      run program start finish (some cell.byte) [due 1, due 2, due 3, due 4] rest

/-- Whether an expression is found anywhere in a text. -/
def Expr.foundIn (expr : Expr) (text : String) : Bool :=
  let (program, finish) := emit #[] .done
  let (program, start) := compile expr program finish
  run program start finish none [] (text.toList.flatMap cellsOf)

end Curation.Pattern
