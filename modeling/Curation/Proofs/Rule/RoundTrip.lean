import Curation.Proofs.Rule.Grammar

/-! Rules written and read back. The stored form of a rule denotes the rule, with null for
the numbers in its arguments that are not finite, and its text writes that form and nothing
else. -/
namespace Curation

/-- The whole numbers. -/
def Number.IsWhole (n : Number) : Prop := ∃ k : Int, n = .whole k

/-- Finite numbers in canonical form. -/
def Number.IsExact (n : Number) : Prop := n.IsCanonical ∧ n.IsFinite

theorem Number.IsWhole.isExact {n : Number} (whole : n.IsWhole) : n.IsExact := by
  obtain ⟨k, rfl⟩ := whole
  exact ⟨trivial, trivial⟩

namespace Rule

variable {P : Number → Prop}

mutual
/-- Rules whose leaves name checks, with arguments over numbers that have a property. -/
def Over (P : Number → Prop) : Rule → Prop
  | .condition leaf => leaf.name ≠ "" ∧ (Json.obj leaf.args).Over P
  | .group _ args _ children => (Json.obj args).Over P ∧ OverEach P children

def OverEach (P : Number → Prop) : List Rule → Prop
  | [] => True
  | child :: rest => Over P child ∧ OverEach P rest
end

mutual
/-- The rule with null for every number that is not finite. -/
def finite : Rule → Rule
  | .condition leaf => .condition ⟨leaf.name, Json.finiteMembers leaf.args⟩
  | .group name args operation children =>
    .group name (Json.finiteMembers args) operation (finiteEach children)

def finiteEach : List Rule → List Rule
  | [] => []
  | child :: rest => finite child :: finiteEach rest
end

mutual
theorem Over.mono {Q : Number → Prop} (implies : ∀ n, P n → Q n) : ∀ {rule : Rule}, rule.Over P → rule.Over Q
  | .condition _, holds => ⟨holds.1, Json.Over.mono implies holds.2⟩
  | .group .., holds => ⟨Json.Over.mono implies holds.1, OverEach.mono implies holds.2⟩

theorem OverEach.mono {Q : Number → Prop} (implies : ∀ n, P n → Q n) :
    ∀ {rules : List Rule}, OverEach P rules → OverEach Q rules
  | [], _ => trivial
  | _ :: _, holds => ⟨holds.1.mono implies, OverEach.mono implies holds.2⟩
end

mutual
theorem finite_eq : ∀ {rule : Rule}, rule.Over Number.IsFinite → rule.finite = rule
  | .condition _, holds => by rw [finite, Json.finiteMembers_eq holds.2.2]
  | .group .., holds => by rw [finite, Json.finiteMembers_eq holds.1.2, finiteEach_eq holds.2]

theorem finiteEach_eq : ∀ {rules : List Rule}, OverEach Number.IsFinite rules → finiteEach rules = rules
  | [], _ => rfl
  | _ :: _, holds => by rw [finiteEach, finite_eq holds.1, finiteEach_eq holds.2]
end

mutual
theorem finite_over : ∀ {rule : Rule}, rule.Over P → rule.finite.Over fun n => P n ∧ n.IsFinite
  | .condition _, holds => ⟨holds.1, Json.finite_over holds.2⟩
  | .group .., holds => ⟨Json.finite_over holds.1, finiteEach_over holds.2⟩

theorem finiteEach_over :
    ∀ {rules : List Rule}, OverEach P rules → OverEach (fun n => P n ∧ n.IsFinite) (finiteEach rules)
  | [], _ => trivial
  | _ :: _, holds => ⟨finite_over holds.1, finiteEach_over holds.2⟩
end

/-! ## The stored form -/

mutual
/-- The stored form of a rule denotes it. -/
theorem denotes_toJson : ∀ {rule : Rule}, rule.Over P → Denotes rule.toJson rule.finite
  | .condition _, holds => .condition rfl rfl holds.1 rfl
  | .group .., holds => .group rfl rfl rfl rfl rfl (denotes_childrenToJson holds.2)

theorem denotes_childrenToJson :
    ∀ {rules : List Rule}, OverEach P rules → List.Forall₂ Denotes (childrenToJson rules) (finiteEach rules)
  | [], _ => .nil
  | _ :: _, holds => .cons (denotes_toJson holds.1) (denotes_childrenToJson holds.2)
end

mutual
theorem toJson_over : ∀ {rule : Rule}, rule.Over P → rule.toJson.Over fun n => P n ∧ n.IsFinite
  | .condition _, holds => by
    have args := Json.finite_over holds.2
    simpa [toJson, Json.Over, Json.OverMembers, Json.finite] using args
  | .group .., holds => by
    have args := Json.finite_over holds.1
    have children := childrenToJson_over holds.2
    simpa [toJson, Json.Over, Json.OverMembers, Json.finite] using ⟨args, children⟩

theorem childrenToJson_over :
    ∀ {rules : List Rule}, OverEach P rules → Json.OverItems (fun n => P n ∧ n.IsFinite) (childrenToJson rules)
  | [], _ => trivial
  | _ :: _, holds => ⟨toJson_over holds.1, childrenToJson_over holds.2⟩
end

theorem args_over {members args : Json.Members} (holds : (Json.obj members).Over P)
    (given : field members "args" (.obj []) = .obj args) : (Json.obj args).Over P := by
  rw [field] at given
  cases found : Json.Members.get? "args" members with
  | none =>
    rw [found] at given
    cases given
    exact ⟨List.nodup_nil, trivial⟩
  | some value =>
    rw [found] at given
    cases given
    exact holds.of_get? found

theorem items_over {members : Json.Members} {items : List Json} (holds : (Json.obj members).Over P)
    (listed : field members "conditions" (.arr []) = .arr items) : Json.OverItems P items := by
  rw [field] at listed
  cases found : Json.Members.get? "conditions" members with
  | none =>
    rw [found] at listed
    cases listed
    trivial
  | some value =>
    rw [found] at listed
    cases listed
    exact holds.of_get? found

mutual
/-- A rule is over the numbers of the value that denotes it. -/
theorem over_of_denotes : ∀ (rule : Rule) {value : Json}, Denotes value rule → value.Over P → rule.Over P
  | .condition _, _, denotes, holds => by
    cases denotes with
    | condition _ _ full given => exact ⟨full, args_over holds given⟩
  | .group _ _ _ children, _, denotes, holds => by
    cases denotes with
    | group _ _ _ given listed read =>
      exact ⟨args_over holds given, overEach_of_denotes children read (items_over holds listed)⟩

theorem overEach_of_denotes :
    ∀ (rules : List Rule) {items : List Json}, List.Forall₂ Denotes items rules → Json.OverItems P items →
      OverEach P rules
  | [], _, _, _ => trivial
  | child :: rest, _, denotes, holds => by
    cases denotes with
    | cons first others => exact ⟨over_of_denotes child first holds.1, overEach_of_denotes rest others holds.2⟩
end

/-! ## Texts -/

/-- A rule over canonical numbers is read from its stored form, with null for what is not
finite. -/
theorem parse_auditText {rule : Rule} (holds : rule.Over Number.IsCanonical) :
    parse (.str (auditText (some rule))) = .ok rule.finite := by
  have proper : rule.toJson.Proper := (toJson_over holds).mono fun _ => And.left
  exact parse_text.mpr ⟨_, proper.value? Json.Layout.standard_compact, denotes_toJson holds⟩

theorem parse_over {text : String} {rule : Rule} (parsed : parse (.str text) = .ok rule) :
    rule.Over Number.IsCanonical := by
  obtain ⟨value, read, denotes⟩ := parse_text.mp parsed
  exact over_of_denotes rule denotes (Json.value?_proper read)

theorem parse_auditText_exact {rule : Rule} (holds : rule.Over Number.IsExact) :
    parse (.str (auditText (some rule))) = .ok rule := by
  rw [parse_auditText (holds.mono fun _ => And.left), finite_eq (holds.mono fun _ => And.right)]

end Rule

end Curation
