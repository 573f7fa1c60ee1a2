import Mathlib.Data.List.Forall2
import Curation.Proofs.Decode.Checked
import Curation.Proofs.Json.Numbers
import Curation.Rule.Reader

/-! The language of stored rules. A value denotes at most one rule, fields that it leaves out
have standard values, and null stands for none of them. The reader accepts exactly the values
that denote a rule. -/
namespace Curation.Rule

/-- A member, or what stands for it where it is absent. -/
def field (members : Json.Members) (name : String) (absent : Json) : Json :=
  (Json.Members.get? name members).getD absent

/-- The rule that a value denotes. Members under other names do not matter. -/
inductive Denotes : Json → Rule → Prop
  | condition {members args : Json.Members} {name : String} :
    Json.Members.get? "type" members = some (.str "CONDITION") →
    Json.Members.get? "name" members = some (.str name) → name ≠ "" →
    field members "args" (.obj []) = .obj args →
    Denotes (.obj members) (.condition ⟨name, args⟩)
  | group {members args : Json.Members} {name : String} {operation : Operation} {items : List Json}
      {children : List Rule} :
    Json.Members.get? "type" members = some (.str "LOGICAL") →
    Json.Members.get? "operation" members = some (.str operation.name) →
    field members "name" (.str "and") = .str name →
    field members "args" (.obj []) = .obj args →
    field members "conditions" (.arr []) = .arr items →
    List.Forall₂ Denotes items children →
    Denotes (.obj members) (.group name args operation children)

open Decode

variable {terms : Terms} {members args : Json.Members} {name : String} {rule : Rule}

theorem optional_eq_field {α : Type} {read : Reader α} {absent a : α} (standard : Json)
    (denotes : ∀ b, read standard = .ok b ↔ absent = b) :
    optional [name] absent read members = .ok a ↔ read (field members name standard) = .ok a := by
  rw [optional_eq_ok, field]
  cases Json.Members.get? name members with
  | none => simp [denotes, eq_comm]
  | some value => simp

theorem args_eq_ok :
    optional ["args"] [] object members = .ok args ↔ field members "args" (.obj []) = .obj args := by
  rw [optional_eq_field (.obj []) (by simp [object]), object_eq_ok]

theorem name_eq_ok :
    optional ["name"] "and" text members = .ok name ↔ field members "name" (.str "and") = .str name := by
  rw [optional_eq_field (.str "and") (by simp [text]), text_eq_ok]

theorem operations_lookup {s : String} {operation : Operation} :
    operations.lookup s = some operation ↔ s = operation.name := by
  by_cases all : s = "AND"
  · subst all
    cases operation <;> simp [operations, Operation.name]
  · by_cases any : s = "OR"
    · subst any
      cases operation <;> simp [operations, Operation.name, List.lookup_cons]
    · have : operations.lookup s = none := by
        simp [operations, List.lookup_cons, beq_false_of_ne all, beq_false_of_ne any]
      cases operation <;> simp [this, Operation.name, all, any]

theorem readCondition_eq_ok :
    readCondition members = .ok rule ↔ ∃ name args, rule = .condition ⟨name, args⟩ ∧
      Json.Members.get? "name" members = some (.str name) ∧ name ≠ "" ∧
      field members "args" (.obj []) = .obj args := by
  simp only [readCondition, Checked.seq_eq_ok, Checked.map_eq_ok, required_eq_ok, someText_eq_ok, args_eq_ok]
  constructor
  · rintro ⟨_, ⟨name, ⟨_, named, rfl, full⟩, rfl⟩, args, given, rfl⟩
    exact ⟨name, args, rfl, named, full, given⟩
  · rintro ⟨name, args, rfl, named, full, given⟩
    exact ⟨_, ⟨name, ⟨_, named, rfl, full⟩, rfl⟩, args, given, rfl⟩

mutual
/-- A value reads as exactly the rule that it denotes. -/
theorem read_eq_ok (value : Json) {rule : Rule} : read terms value = .ok rule ↔ Denotes value rule := by
  cases value with
  | obj members =>
    rw [read]
    split
    case h_1 untagged =>
      refine ⟨nofun, fun denotes => ?_⟩
      cases denotes with
      | condition tagged | group tagged => simp [untagged] at tagged
    case h_2 tagged =>
      rw [Checked.under_eq_ok, readCondition_eq_ok]
      constructor
      · rintro ⟨name, args, rfl, named, full, given⟩
        exact .condition tagged named full given
      · intro denotes
        cases denotes with
        | condition _ named full given => exact ⟨_, _, rfl, named, full, given⟩
        | group other => simp [tagged] at other
    case h_3 tagged =>
      simp only [Checked.under_eq_ok, Checked.seq_eq_ok, Checked.map_eq_ok, name_eq_ok, args_eq_ok,
        required_eq_ok, choice_eq_ok, operations_lookup, readChildren_eq_ok members]
      constructor
      · rintro ⟨_, ⟨_, ⟨_, ⟨name, named, rfl⟩, args, given, rfl⟩, operation, ⟨_, combined, _, rfl, rfl⟩, rfl⟩,
          children, ⟨items, listed, read⟩, rfl⟩
        exact .group tagged combined named given listed read
      · intro denotes
        cases denotes with
        | condition other => simp [tagged] at other
        | group _ combined named given listed read =>
          exact ⟨_, ⟨_, ⟨_, ⟨_, named, rfl⟩, _, given, rfl⟩, _, ⟨_, combined, _, rfl, rfl⟩, rfl⟩,
            _, ⟨_, listed, read⟩, rfl⟩
    case h_4 tag other tagged =>
      refine ⟨nofun, fun denotes => ?_⟩
      cases denotes with
      | condition tag | group tag => simp_all
  | null | bool | number | str | arr => exact ⟨nofun, nofun⟩

theorem readChildren_eq_ok (members : List (String × Json)) {children : List Rule} :
    readChildren terms members = .ok children ↔
      ∃ items, field members "conditions" (.arr []) = .arr items ∧ List.Forall₂ Denotes items children := by
  cases members with
  | nil => simp [readChildren, field, Json.Members.get?, eq_comm]
  | cons member rest =>
    obtain ⟨name, value⟩ := member
    by_cases here : name = "conditions"
    · simp [readChildren, field, Json.Members.get?, here, readList_eq_ok value]
    · simp [readChildren, field, Json.Members.get?, here, readChildren_eq_ok rest]

theorem readList_eq_ok (value : Json) {children : List Rule} :
    readList terms value = .ok children ↔ ∃ items, value = .arr items ∧ List.Forall₂ Denotes items children := by
  cases value with
  | arr items => simp [readList, readAll_eq_ok 0 items]
  | null | bool | number | str | obj => exact ⟨nofun, nofun⟩

theorem readAll_eq_ok (position : Nat) (items : List Json) {children : List Rule} :
    readAll terms position items = .ok children ↔ List.Forall₂ Denotes items children := by
  cases items with
  | nil => simp [readAll, eq_comm]
  | cons item rest =>
    simp only [readAll, Checked.seq_eq_ok, Checked.map_eq_ok, Checked.under_eq_ok, read_eq_ok item,
      readAll_eq_ok (position + 1) rest, List.forall₂_cons_left_iff]
    constructor
    · rintro ⟨_, ⟨child, denoted, rfl⟩, others, rest, rfl⟩
      exact ⟨child, others, denoted, rest, rfl⟩
    · rintro ⟨child, others, denoted, rest, rfl⟩
      exact ⟨_, ⟨child, denoted, rfl⟩, others, rest, rfl⟩
end

/-! ## Texts -/

theorem load_eq_ok {stored : Json} : load stored = .ok rule ↔ parse stored = .ok rule := by
  rw [load]
  cases parse stored with
  | ok _ => simp
  | bad issues => exact ⟨nofun, nofun⟩

theorem parse_value {value : Json} (decoded : ∀ text, value ≠ .str text) :
    parse value = .ok rule ↔ Denotes value rule := by
  unfold parse
  split
  · rename_i text
    exact absurd rfl (decoded text)
  · exact read_eq_ok value

theorem parse_text {text : String} :
    parse (.str text) = .ok rule ↔ ∃ value, Json.value? text = some value ∧ Denotes value rule := by
  rw [parse]
  cases Json.value? text with
  | none => simp
  | some value => simp [read_eq_ok]

end Curation.Rule
