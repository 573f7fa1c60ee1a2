import Mathlib.Data.List.Nodup
import Curation.Check.Registry

/-! Which rules a registry accepts. Leaves are judged one by one against the definitions
of their checks, and only the ban on repetition looks at several of them. Acceptance
therefore depends on which leaves a rule has and how often, not on how it groups them. -/
namespace Curation

/-- Values that count as not given. -/
inductive Json.Blank : Json → Prop
  | null : Blank .null
  | text : Blank (.str "")
  | list : Blank (.arr [])

/-- Values that stand for a whole number: numbers without a fraction, and texts of one. -/
inductive Json.Whole : Json → Prop
  | number {x : Number} {n : Int} : x.eq (.whole n) = true → Whole (.number x)
  | text {s : String} {n : Int} : Text.readWhole? 10 s.toList = some n → Whole (.str s)

/-- What an argument asks of the arguments of a leaf. -/
structure Argument.Accepts (arg : Argument) (args : Json.Members) : Prop where
  given : arg.required = true → ∃ value, Json.Members.get? arg.name args = some value ∧ ¬ value.Blank
  whole : arg.type = "number" → ∀ value, Json.Members.get? arg.name args = some value → ¬ value.Blank →
    value.Whole
  passes : ∀ test, arg.test = some test → ∀ value, Json.Members.get? arg.name args = some value →
    ¬ value.Blank → test value = none

/-- A category that is kept for one rule set has no place in the other one. -/
inductive CheckCategory.Misplaced : Option RuleSetKind → CheckCategory → Prop
  | inclusion : Misplaced (some .exclusion) .inclusion
  | exclusion : Misplaced (some .inclusion) .exclusion

namespace Registry

/-- A leaf that nothing is wrong with on its own. -/
structure Admits (registry : Registry) (kind : Option RuleSetKind) (leaf : Condition) : Prop where
  known : ∃ definition ∈ registry.definitions, definition.name = leaf.name
  placed : ∀ definition ∈ registry.definitions, definition.name = leaf.name →
    ¬ definition.category.Misplaced kind
  supplied : ∀ definition ∈ registry.definitions, definition.name = leaf.name →
    ∀ arg ∈ definition.args, arg.Accepts leaf.args

/-- Leaves that nothing is wrong with, on their own or together. -/
structure Accepts (registry : Registry) (kind : Option RuleSetKind) (leaves : List Condition) :
    Prop where
  each : ∀ leaf ∈ leaves, registry.Admits kind leaf
  once : ∀ definition ∈ registry.definitions, definition.allowMultiple = false →
    leaves.countP (·.name == definition.name) ≤ 1

end Registry

/-! ## Values -/

theorem Argument.isBlank_iff (value : Json) : isBlank value = true ↔ value.Blank := by
  constructor
  · intro blank
    cases value with
    | null => exact .null
    | str s =>
      have empty : s = "" := by simpa [isBlank] using blank
      exact empty ▸ .text
    | arr items =>
      have empty : items = [] := by simpa [isBlank] using blank
      exact empty ▸ .list
    | bool | number | obj => simp [isBlank] at blank
  · rintro (_ | _ | _) <;> rfl

/-- A number has no fraction exactly when it equals a whole number. Below the point, that
is a significand that is a multiple of the power of two that it is divided by. -/
theorem Binary64.isWhole_iff (x : Binary64) :
    x.isWhole = true ↔ ∃ n : Int, Number.eq (.real x) (.whole n) = true := by
  cases x with
  | nan => simp [isWhole, Number.eq, Number.compare?, Number.compareWhole]
  | infinity negative => cases negative <;> simp [isWhole, Number.eq, Number.compare?, Number.compareWhole]
  | finite negative m e =>
    have equal (n : Int) : Number.eq (.real (.finite negative m e)) (.whole n) = true ↔
        n * Nat.pow 2 (-(min e 0)).toNat = overPower negative m e (min e 0) := by
      simp [Number.eq, Number.compare?, Number.compareWhole]
    simp only [equal]
    by_cases point : 0 ≤ e
    · have base : min e 0 = 0 := by omega
      simp only [isWhole, point, decide_true, Bool.true_or, true_iff, base]
      exact ⟨overPower negative m e 0, by simp⟩
    · have base : min e 0 = e := by omega
      simp only [isWhole, point, decide_false, Bool.false_or, beq_iff_eq, base]
      have size : overPower negative m e e = if negative then -(m : Int) else m := by
        simp [overPower]
      rw [← Nat.dvd_iff_mod_eq_zero, size]
      constructor
      · rintro ⟨n, rfl⟩
        refine ⟨if negative then -n else n, ?_⟩
        cases negative with
        | false => simp [Int.mul_comm]
        | true => rw [if_pos rfl, if_pos rfl, Int.natCast_mul, Int.neg_mul, Int.mul_comm]
      · rintro ⟨n, equal⟩
        have divides : (Nat.pow 2 (-e).toNat : Int) ∣ if negative then -(m : Int) else m :=
          ⟨n, by rw [← equal, Int.mul_comm]⟩
        cases negative with
        | false => exact Int.natCast_dvd_natCast.mp divides
        | true => exact Int.natCast_dvd_natCast.mp (Int.dvd_neg.mp divides)

theorem Registry.isWholeNumber_iff (value : Json) : isWholeNumber value = true ↔ value.Whole := by
  cases value with
  | number x =>
    cases x with
    | whole n => exact ⟨fun _ => .number (n := n) (by simp [Number.eq, Number.compare?]), fun _ => rfl⟩
    | real x =>
      rw [isWholeNumber, Binary64.isWhole_iff]
      exact ⟨fun ⟨_, equal⟩ => .number equal, fun | .number equal => ⟨_, equal⟩⟩
  | str s =>
    rw [isWholeNumber, Option.isSome_iff_exists]
    exact ⟨fun ⟨_, read⟩ => .text read, fun | .text read => ⟨_, read⟩⟩
  | null | bool | arr | obj => exact ⟨nofun, nofun⟩

/-! ## Arguments -/

namespace Argument

variable (definition : Definition) {arg : Argument} {args : Json.Members} {value : Json}

theorem fault_of_blank (blank : value.Blank) :
    Registry.argumentFault? definition arg value = none ↔ arg.required = false := by
  rw [Registry.argumentFault?, if_pos (isBlank_iff value |>.mpr blank)]
  cases arg.required with
  | false => simp
  | true =>
    cases arg.missingMessage with
    | none => simp
    | some reason => by_cases silent : reason.isEmpty = true <;> simp [silent]

theorem fault_of_given (given : ¬ value.Blank) :
    Registry.argumentFault? definition arg value = none ↔
      (arg.type = "number" → value.Whole) ∧ ∀ test, arg.test = some test → test value = none := by
  rw [Registry.argumentFault?, if_neg fun blank => given (isBlank_iff value |>.mp blank),
    ← Registry.isWholeNumber_iff]
  by_cases whole : arg.type = "number" → Registry.isWholeNumber value = true
  · have usable : (arg.type == "number" && !Registry.isWholeNumber value) = false := by
      simpa using whole
    simp only [usable, Bool.false_eq_true, if_false, Option.bind_eq_none_iff, Option.map_eq_none_iff]
    exact ⟨fun passes => ⟨whole, passes⟩, And.right⟩
  · have unusable : (arg.type == "number" && !Registry.isWholeNumber value) = true := by
      simpa using whole
    simp only [unusable, if_true]
    exact ⟨nofun, fun accepts => absurd accepts.1 whole⟩

/-- Nothing is wrong with the value given for an argument exactly when the argument accepts
it. A value that is absent is judged as null, which is blank. -/
theorem accepts_iff :
    Registry.argumentFault? definition arg ((Json.Members.get? arg.name args).getD .null) = none ↔
      arg.Accepts args := by
  cases found : Json.Members.get? arg.name args with
  | none =>
    rw [Option.getD_none, fault_of_blank definition .null]
    constructor
    · intro optional
      exact ⟨by simp [optional], by simp [found], by simp [found]⟩
    · intro accepts
      by_contra required
      obtain ⟨value, here, _⟩ := accepts.given (by simpa using required)
      simp [found] at here
  | some value =>
    rw [Option.getD_some]
    by_cases blank : value.Blank
    · rw [fault_of_blank definition blank]
      constructor
      · intro optional
        exact ⟨by simp [optional], by simp [found, blank], by simp [found, blank]⟩
      · intro accepts
        by_contra required
        obtain ⟨_, here, given⟩ := accepts.given (by simpa using required)
        exact given (Option.some.inj (found.symm.trans here) ▸ blank)
    · rw [fault_of_given definition blank]
      constructor
      · rintro ⟨whole, passes⟩
        exact ⟨fun _ => ⟨value, found, blank⟩,
          fun number other here _ => Option.some.inj (found.symm.trans here) ▸ whole number,
          fun test tested other here _ => Option.some.inj (found.symm.trans here) ▸ passes test tested⟩
      · intro accepts
        exact ⟨fun number => accepts.whole number value found blank,
          fun test tested => accepts.passes test tested value found blank⟩

end Argument

/-! ## Leaves -/

namespace Registry

variable {registry : Registry} {kind : Option RuleSetKind} {leaf : Condition} {leaves : List Condition}

theorem find?_iff {name : String} {definition : Definition} :
    registry.find? name = some definition ↔
      definition ∈ registry.definitions ∧ definition.name = name := by
  constructor
  · intro found
    exact ⟨List.mem_of_find?_eq_some found, by simpa using List.find?_some found⟩
  · rintro ⟨member, rfl⟩
    obtain ⟨other, found⟩ : ∃ other, registry.find? definition.name = some other := by
      rw [← Option.isSome_iff_exists, find?, List.find?_isSome]
      exact ⟨definition, member, by simp⟩
    have same : other.name = definition.name := by simpa using List.find?_some found
    rw [found, List.inj_on_of_nodup_map registry.names_nodup (List.mem_of_find?_eq_some found) member same]

theorem find?_none_iff {name : String} :
    registry.find? name = none ↔ ∀ definition ∈ registry.definitions, definition.name ≠ name := by
  simp [find?]

theorem misplaced_iff {category : CheckCategory} :
    (kind.any fun kind => !category.fits kind) = true ↔ category.Misplaced kind := by
  constructor
  · intro misfit
    cases kind with
    | none => cases misfit
    | some kind =>
      cases kind <;> cases category <;> first | exact .inclusion | exact .exclusion | cases misfit
  · rintro (_ | _) <;> rfl

/-- What is wrong with a leaf is nothing exactly when it is admitted. -/
theorem admits_iff : registry.leafFault? kind leaf = none ↔ registry.Admits kind leaf := by
  rw [leafFault?]
  cases found : registry.find? leaf.name with
  | none =>
    have unknown := find?_none_iff.mp found
    refine ⟨nofun, fun admits => ?_⟩
    obtain ⟨definition, member, named⟩ := admits.known
    exact absurd named (unknown definition member)
  | some definition =>
    obtain ⟨member, named⟩ := find?_iff.mp found
    have only (other : Definition) (known : other ∈ registry.definitions) (same : other.name = leaf.name) :
        other = definition := by
      simpa [found, eq_comm] using find?_iff.mpr ⟨known, same⟩
    simp only
    split
    · rename_i misfit
      refine ⟨nofun, fun admits => ?_⟩
      exact absurd (misplaced_iff.mp misfit) (admits.placed definition member named)
    · rename_i fits
      simp only [List.findSome?_eq_none_iff, Argument.accepts_iff]
      constructor
      · intro accepts
        exact {
          known := ⟨definition, member, named⟩
          placed := fun other known same misplaced =>
            fits (misplaced_iff.mpr (only other known same ▸ misplaced))
          supplied := fun other known same => only other known same ▸ accepts }
      · intro admits
        exact admits.supplied definition member named

/-- Of two leaves of one check, the first one reports the repetition. -/
theorem repetitionFault?_none_iff
    (known : ∀ leaf ∈ leaves, ∃ definition ∈ registry.definitions, definition.name = leaf.name) :
    registry.repetitionFault? leaves = none ↔
      ∀ definition ∈ registry.definitions, definition.allowMultiple = false →
        leaves.countP (·.name == definition.name) ≤ 1 := by
  simp only [repetitionFault?, List.findSome?_eq_none_iff]
  constructor
  · intro unrepeated definition member single
    by_contra repeated
    have positive : 0 < leaves.countP (·.name == definition.name) := by omega
    obtain ⟨leaf, inside, named⟩ := List.countP_pos_iff.mp positive
    have named : leaf.name = definition.name := by simpa using named
    have found := find?_iff.mpr ⟨member, rfl⟩
    have := unrepeated leaf inside
    simp [named, found, single] at this
    omega
  · intro once leaf inside
    obtain ⟨definition, member, named⟩ := known leaf inside
    rw [find?_iff.mpr ⟨member, named⟩]
    cases single : definition.allowMultiple with
    | true => simp [single]
    | false =>
      have := once definition member single
      simp [single, ← named, this]

/-! ## Refusals -/

theorem argumentFault?_known (definition : Definition) (arg : Argument) (value : Json) (name : String) :
    argumentFault? definition arg value ≠ some (.unknownCheck name) := by
  rw [argumentFault?]
  intro fault
  split at fault
  · split at fault
    · split at fault
      · split at fault <;> cases fault
      · cases fault
    · cases fault
  · split at fault
    · cases fault
    · obtain ⟨test, _, fault⟩ := Option.bind_eq_some_iff.mp fault
      obtain ⟨_, _, fault⟩ := Option.map_eq_some_iff.mp fault
      cases fault

/-- A leaf is refused for its check only where there is no such check. -/
theorem leafFault?_unknown_iff {name : String} :
    registry.leafFault? kind leaf = some (.unknownCheck name) ↔ leaf.name = name ∧ name ∉ registry.names := by
  rw [leafFault?]
  cases found : registry.find? leaf.name with
  | none =>
    have unknown : leaf.name ∉ registry.names := by
      simpa [names] using find?_none_iff.mp found
    simp only [Option.some.injEq, ConfigurationFault.unknownCheck.injEq]
    exact ⟨fun same => ⟨same, same ▸ unknown⟩, And.left⟩
  | some definition =>
    obtain ⟨member, named⟩ := find?_iff.mp found
    refine ⟨fun fault => ?_, fun ⟨same, unknown⟩ => ?_⟩
    · simp only at fault
      split at fault
      · cases fault
      · obtain ⟨arg, _, fault⟩ := List.exists_of_findSome?_eq_some fault
        exact absurd fault (argumentFault?_known definition arg _ name)
    · exact absurd (List.mem_map.mpr ⟨definition, member, named.trans same⟩) unknown

theorem repetitionFault?_known (name : String) :
    registry.repetitionFault? leaves ≠ some (.unknownCheck name) := by
  intro fault
  obtain ⟨leaf, _, fault⟩ := List.exists_of_findSome?_eq_some fault
  split at fault
  · cases fault
  · split at fault <;> cases fault

variable {rule : Rule}

theorem check_unknown_iff {name : String} :
    registry.check kind rule = .error (.configuration (.unknownCheck name)) ↔
      rule.leaves.findSome? (registry.leafFault? kind) = some (.unknownCheck name) := by
  rw [check, ruleFault?]
  cases rule.leaves.findSome? (registry.leafFault? kind) with
  | some fault => simp
  | none =>
    cases repeated : registry.repetitionFault? rule.leaves with
    | none => simp
    | some fault =>
      have known : fault ≠ .unknownCheck name :=
        fun same => repetitionFault?_known name (same ▸ repeated)
      simp [known]

theorem check_accepts_iff :
    registry.check kind rule = .ok () ↔ registry.Accepts kind rule.leaves := by
  have accepted : registry.check kind rule = .ok () ↔
      rule.leaves.findSome? (registry.leafFault? kind) = none ∧
        registry.repetitionFault? rule.leaves = none := by
    rw [check, ruleFault?]
    cases rule.leaves.findSome? (registry.leafFault? kind) with
    | some fault => simp
    | none => cases registry.repetitionFault? rule.leaves <;> simp
  rw [accepted, List.findSome?_eq_none_iff]
  simp only [admits_iff]
  constructor
  · rintro ⟨each, unrepeated⟩
    exact ⟨each, (repetitionFault?_none_iff fun leaf inside => (each leaf inside).known).mp unrepeated⟩
  · rintro ⟨each, once⟩
    exact ⟨each, (repetitionFault?_none_iff fun leaf inside => (each leaf inside).known).mpr once⟩

theorem Accepts.perm {others : List Condition} (accepts : registry.Accepts kind leaves)
    (perm : leaves.Perm others) : registry.Accepts kind others where
  each leaf inside := accepts.each leaf (perm.mem_iff.mpr inside)
  once definition member single := perm.countP_eq _ ▸ accepts.once definition member single

/-- A rule is accepted exactly when its leaves are. Rules with the same leaves are accepted
alike, however these are grouped, ordered and combined, and a refusal blames an unknown
check exactly when the first leaf that is not admitted names none. -/
theorem leaves_decide_acceptance (registry : Registry) (kind : Option RuleSetKind) (rule : Rule) :
    (registry.check kind rule = .ok () ↔ registry.Accepts kind rule.leaves) ∧
    (∀ other : Rule, rule.leaves.Perm other.leaves →
      (registry.check kind other = .ok () ↔ registry.check kind rule = .ok ())) ∧
    ∀ name, registry.check kind rule = .error (.configuration (.unknownCheck name)) ↔
      ∃ before leaf after, rule.leaves = before ++ leaf :: after ∧
        (∀ earlier ∈ before, registry.Admits kind earlier) ∧
        leaf.name = name ∧ name ∉ registry.names := by
  refine ⟨check_accepts_iff, fun other perm => ?_, fun name => ?_⟩
  · rw [check_accepts_iff, check_accepts_iff]
    exact ⟨fun accepts => accepts.perm perm.symm, fun accepts => accepts.perm perm⟩
  · rw [check_unknown_iff, List.findSome?_eq_some_iff]
    simp only [leafFault?_unknown_iff, admits_iff]
    constructor
    · rintro ⟨before, leaf, after, split, unknown, admitted⟩
      exact ⟨before, leaf, after, split, admitted, unknown⟩
    · rintro ⟨before, leaf, after, split, admitted, unknown⟩
      exact ⟨before, leaf, after, split, unknown, admitted⟩

/-- A check that may stand once only is refused in two groups of a rule as it is beside
itself. -/
theorem nested_repetition_refused :
    let once : Definition := { name := "alwaysInclude", friendlyName := "", description := "" }
    let registry : Registry := ⟨[once], by decide⟩
    let leaf : Rule := .condition ⟨"alwaysInclude", []⟩
    let beside : Rule := .group "and" [] .all [leaf, leaf]
    let nested : Rule := .group "and" [] .all [.group "or" [] .any [leaf], .group "or" [] .any [leaf]]
    beside.leaves.Perm nested.leaves ∧ registry.check none beside ≠ .ok () ∧
      registry.check none nested ≠ .ok () := by
  intro once registry leaf beside nested
  have same : beside.leaves.Perm nested.leaves := .refl _
  have refused : registry.check none beside ≠ .ok () := by
    rw [Ne, (leaves_decide_acceptance registry none beside).1]
    intro accepts
    exact absurd (accepts.once once (List.mem_singleton.mpr rfl) rfl) (by decide)
  refine ⟨same, refused, ?_⟩
  rw [Ne, (leaves_decide_acceptance registry none beside).2.1 nested same]
  exact refused

end Registry

end Curation
