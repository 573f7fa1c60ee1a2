import Curation.Channel.Basic
import Curation.Proofs.Rule.RoundTrip
import Curation.Proofs.Text.Lower

/-! Configurations written and read back. What a value of canonical numbers decodes to is
valid, and a valid configuration is read from its own form, with null for the numbers in
the arguments of its rules that are not finite. -/
namespace Curation

open Decode

/-! ## Valid configurations -/

/-- The arguments of an action are as they can be decoded. -/
def Action.Valid : Action → Prop
  | .cooldown hours => hours.IsCanonical ∧ hours.lt .zero = false
  | .grantRole role => role ≠ ""
  | _ => True

structure RuleSet.Valid (set : RuleSet) : Prop where
  rule : set.rule.Over Number.IsCanonical
  actions : set.actions ≠ []
  each : ∀ action ∈ set.actions, action.Valid

/-- What every configuration that was decoded has: a name in lower case, limits that make
sense, and something to include by where it excludes. -/
structure Channel.Valid (channel : Channel) : Prop where
  named : channel.id ≠ ""
  lowered : Text.lower channel.id = channel.id
  hours : 0 ≤ channel.slowModeHours
  inclusion : channel.inclusion.Valid
  exclusion : channel.exclusion.Valid
  includes : channel.exclusion.hasConditions = true → channel.inclusion.hasConditions = true

/-- The set with null for every number in its rule that is not finite. -/
def RuleSet.finite (set : RuleSet) : RuleSet := { set with rule := set.rule.finite }

/-- The configuration with null for every number in its rules that is not finite. -/
def Channel.finite (channel : Channel) : Channel :=
  { channel with inclusion := channel.inclusion.finite, exclusion := channel.exclusion.finite }

variable {terms : Terms}

namespace Rule

theorem finite_hasConditions (rule : Rule) : rule.finite.hasConditions = rule.hasConditions := by
  cases rule with
  | condition => rfl
  | group _ _ _ children => cases children <;> rfl

mutual
/-- The stored form holds finite numbers only, so it is that of the finite rule. -/
theorem toJson_finite {P : Number → Prop} : ∀ {rule : Rule}, rule.Over P → rule.finite.toJson = rule.toJson
  | .condition _, holds => by rw [finite, toJson, toJson, Json.finiteMembers_finiteMembers holds.2.2]
  | .group .., holds => by
    rw [finite, toJson, toJson, Json.finiteMembers_finiteMembers holds.1.2, childrenToJson_finite holds.2]

theorem childrenToJson_finite {P : Number → Prop} :
    ∀ {rules : List Rule}, OverEach P rules → childrenToJson (finiteEach rules) = childrenToJson rules
  | [], _ => rfl
  | _ :: _, holds => by
    rw [finiteEach, childrenToJson, childrenToJson, toJson_finite holds.1, childrenToJson_finite holds.2]
end

end Rule

/-! ## Reading what was written -/

theorem UserOption.read_toJson (option : UserOption) : read terms option.toJson = .ok option := by
  obtain ⟨value, label, icon⟩ := option
  cases icon <;> rfl

theorem Action.read_toJson {action : Action} (valid : action.Valid) : read terms action.toJson = .ok action := by
  cases action with
  | bypass | addToBypass | hideQuietly | downvote | ban | unlike | like | mute | warnAndHide | cooldownEnded
  | unhide | unmuted => rfl
  | cooldown hours =>
    have own : readHours (.number (.real hours)) = .ok hours := by
      rw [readHours, real, Number.toReal?, Checked.andThen, if_neg (by simp [valid.2])]
    refine Checked.under_eq_ok.mpr (Checked.map_eq_ok.mpr ⟨hours, ?_, rfl⟩)
    exact Checked.under_eq_ok.mpr (Checked.under_eq_ok.mpr own)
  | grantRole role =>
    have own : someText (.str role) = .ok role := someText_eq_ok.mpr ⟨rfl, valid⟩
    refine Checked.under_eq_ok.mpr (Checked.map_eq_ok.mpr ⟨role, ?_, rfl⟩)
    exact Checked.under_eq_ok.mpr (Checked.under_eq_ok.mpr own)

theorem list_map {α : Type} {read : Reader α} {write : α → Json} {values : List α}
    (each : ∀ value ∈ values, read (write value) = .ok value) :
    list read (.arr (values.map write)) = .ok values :=
  list_eq_ok.mpr ⟨_, rfl, List.forall₂_map_left_iff.mpr (List.forall₂_same.mpr each)⟩

theorem RuleSet.read_toJson {set : RuleSet} (valid : set.Valid) : read terms set.toJson = .ok set.finite := by
  obtain ⟨id, target, active, rule, actions⟩ := set
  have named : nullable text (Json.ofText? id) = .ok id := by cases id <;> rfl
  have aimed : choice RuleTarget.byName (.str target.name) = .ok target := by cases target <;> rfl
  have ruled : Rule.read terms rule.toJson = .ok rule.finite :=
    (Rule.read_eq_ok _).mpr (Rule.denotes_toJson valid.rule)
  have acting : readActions terms (.arr (actions.map Action.toJson)) = .ok actions := by
    refine Checked.andThen_eq_ok.mpr ⟨actions, list_map fun action member => ?_, ?_⟩
    · exact Action.read_toJson (valid.each action member)
    · rw [if_neg (by simpa using valid.actions)]
  simp [read, toJson, finite, record, required, Decode.optional, lookup?, Json.Members.get?, flag, named, aimed,
    ruled, acting]

/-- A valid configuration is read from its own form, but for numbers that are not finite. -/
theorem Channel.read_toJson {channel : Channel} (valid : channel.Valid) :
    read terms channel.toJson = .ok channel.finite := by
  obtain ⟨id, userId, active, banThreshold, slowModeHours, bypassed, excludeCohosts, inclusion,
    exclusion⟩ := channel
  have named : (someText (.str id)).map Text.lower = .ok id := by
    rw [someText_eq_ok.mpr ⟨rfl, valid.named⟩]
    exact congrArg Checked.ok valid.lowered
  have limited : nullable whole ((banThreshold.map Json.int).getD .null) = .ok banThreshold := by
    cases banThreshold <;> rfl
  have slowed : wholeAtLeast 0 (.int slowModeHours) = .ok slowModeHours :=
    Checked.andThen_eq_ok.mpr ⟨_, rfl, if_neg (by simpa using valid.hours)⟩
  have spared : list (UserOption.read terms) (.arr (bypassed.map UserOption.toJson)) = .ok bypassed :=
    list_map fun option _ => option.read_toJson
  have including : RuleSet.read terms inclusion.toJson = .ok inclusion.finite :=
    RuleSet.read_toJson valid.inclusion
  have excluding : RuleSet.read terms exclusion.toJson = .ok exclusion.finite :=
    RuleSet.read_toJson valid.exclusion
  refine Checked.andThen_eq_ok.mpr ⟨finite ⟨id, userId, active, banThreshold, slowModeHours, bypassed,
    excludeCohosts, inclusion, exclusion⟩, ?_, if_neg ?_⟩
  · simp [readFields, finite, required, Decode.optional, lookup?, Json.Members.get?, text, flag, named, limited,
      slowed, spared, including, excluding]
  · intro bare
    simp only [finite, RuleSet.hasConditions, RuleSet.finite, Rule.finite_hasConditions, Bool.and_eq_true,
      Bool.not_eq_true'] at bare
    have includes : inclusion.rule.hasConditions = true := valid.includes bare.2
    simp [includes] at bare

/-- Where all numbers are finite, nothing is lost. -/
theorem Channel.finite_eq {channel : Channel} (including : channel.inclusion.rule.Over Number.IsFinite)
    (excluding : channel.exclusion.rule.Over Number.IsFinite) : channel.finite = channel := by
  simp only [finite, RuleSet.finite, Rule.finite_eq including, Rule.finite_eq excluding]

/-! ## The stored form -/

theorem Action.toJson_proper {action : Action} (valid : action.Valid) : action.toJson.Proper := by
  cases action with
  | cooldown hours =>
    simpa [toJson, args?, Json.Proper, Json.Over, Json.OverMembers, Number.IsCanonical] using valid.1
  | bypass | addToBypass | hideQuietly | downvote | ban | unlike | like | mute | warnAndHide | cooldownEnded
  | unhide | unmuted | grantRole =>
    simp [toJson, args?, Json.Proper, Json.Over, Json.OverMembers]

theorem UserOption.toJson_proper (option : UserOption) : option.toJson.Proper := by
  obtain ⟨value, label, icon⟩ := option
  cases icon <;> simp [toJson, Json.ofText?, Json.int, Json.Proper, Json.Over, Json.OverMembers, Number.IsCanonical]

theorem map_proper {α : Type} {write : α → Json} {values : List α}
    (each : ∀ value ∈ values, (write value).Proper) :
    (Json.arr (values.map write)).Proper :=
  Json.overItems_iff.mpr (List.forall_mem_map.mpr each)

theorem RuleSet.toJson_proper {set : RuleSet} (valid : set.Valid) : set.toJson.Proper := by
  obtain ⟨id, target, active, rule, actions⟩ := set
  have ruled : rule.toJson.Over Number.IsCanonical := (Rule.toJson_over valid.rule).mono fun _ => And.left
  have acting : (Json.arr (actions.map Action.toJson)).Over Number.IsCanonical :=
    map_proper fun action member => Action.toJson_proper (valid.each action member)
  have named : (Json.ofText? id).Over Number.IsCanonical := by cases id <;> trivial
  have distinct : ["id", "target", "active", "rule", "actions"].Nodup := by decide
  exact ⟨distinct, named, trivial, trivial, ruled, acting, trivial⟩

theorem RuleSet.toJson_finite {set : RuleSet} (valid : set.Valid) : set.finite.toJson = set.toJson := by
  rw [toJson, finite, Rule.toJson_finite valid.rule]
  rfl

/-! ## What decoding gives -/

theorem plainReal?_canonical {text : List Char} {x : Binary64} (given : plainReal? text = some x) :
    x.IsCanonical := by
  unfold plainReal? at given
  split at given
  extract_lets word digits rest at given
  split at given
  · cases given
    trivial
  split at given
  · cases given
    trivial
  split at given
  extract_lets value at given
  split at given
  · cases given
  split at given
  · cases given
    exact Binary64.ofDecimal_canonical ..
  · split at given
    · obtain ⟨_, -, rfl⟩ := Option.map_eq_some_iff.mp given
      exact Binary64.ofDecimal_canonical ..
    · cases given

theorem ofInt?_canonical {n : Int} {x : Binary64} (given : Binary64.ofInt? n = some x) : x.IsCanonical := by
  have canonical := Binary64.ofRatio_canonical (decide (n < 0)) n.natAbs 1
  rw [Binary64.ofInt?] at given
  split at given
  · rename_i rounded
    cases given
    rwa [rounded] at canonical
  · cases given

/-- However a number is given, it is taken in canonical form. -/
theorem real_canonical {value : Json} (proper : value.Proper) {x : Binary64} (given : real value = .ok x) :
    x.IsCanonical := by
  cases value with
  | bool b =>
    cases given
    exact Binary64.ofRatio_canonical ..
  | number n =>
    rw [real] at given
    cases n with
    | whole n =>
      rw [Number.toReal?] at given
      split at given
      · rename_i taken
        cases given
        exact ofInt?_canonical taken
      · cases given
    | real y =>
      cases given
      exact proper
  | str s =>
    rw [real] at given
    split at given
    · rename_i taken
      cases given
      rw [realOfText?] at taken
      cases plain : plainReal? (trim s.toList) with
      | some y =>
        rw [plain] at taken
        cases taken
        exact plainReal?_canonical plain
      | none =>
        rw [plain] at taken
        obtain ⟨_, -, plain⟩ := Option.bind_eq_some_iff.mp taken
        exact plainReal?_canonical plain
    · cases given
  | null | arr | obj => cases given

theorem Action.valid_of_read {value : Json} (proper : value.Proper) {action : Action}
    (given : read terms value = .ok action) : action.Valid := by
  obtain ⟨members, name, fields, rfl, -, kind, decoded⟩ := tagged_eq_ok.mp given
  clear given
  unfold fields? at kind
  split at kind
  · cases kind
    obtain ⟨voter, -, rfl⟩ := Checked.map_eq_ok.mp decoded
    trivial
  split at kind
  · cases kind
    obtain ⟨hours, timed, rfl⟩ := Checked.map_eq_ok.mp decoded
    obtain ⟨args, named, timed⟩ := required_eq_ok.mp timed
    obtain ⟨own, rfl, timed⟩ := record_eq_ok.mp timed
    obtain ⟨duration, lasts, timed⟩ := required_eq_ok.mp timed
    obtain ⟨hours, taken, timed⟩ := Checked.andThen_eq_ok.mp timed
    split at timed
    · cases timed
    · rename_i positive
      cases timed
      exact ⟨real_canonical ((proper.of_get? named).of_get? lasts) taken, by simpa using positive⟩
  split at kind
  · cases kind
    obtain ⟨role, granted, rfl⟩ := Checked.map_eq_ok.mp decoded
    obtain ⟨args, -, granted⟩ := required_eq_ok.mp granted
    obtain ⟨own, rfl, granted⟩ := record_eq_ok.mp granted
    obtain ⟨_, -, granted⟩ := required_eq_ok.mp granted
    exact (someText_eq_ok.mp granted).2
  · obtain ⟨bare, found, rfl⟩ := Option.map_eq_some_iff.mp kind
    cases decoded
    have bare : action ∈ plain := List.mem_of_find?_eq_some found
    simp only [plain, List.mem_cons, List.not_mem_nil, or_false] at bare
    rcases bare with rfl | rfl | rfl | rfl | rfl | rfl | rfl | rfl | rfl | rfl | rfl <;> trivial

theorem RuleSet.valid_of_read {value : Json} (proper : value.Proper) {set : RuleSet}
    (given : read terms value = .ok set) : set.Valid := by
  obtain ⟨members, rfl, decoded⟩ := record_eq_ok.mp given
  clear given
  simp only [Checked.seq_eq_ok, Checked.map_eq_ok] at decoded
  obtain ⟨_, ⟨_, ⟨_, ⟨_, ⟨id, -, rfl⟩, target, -, rfl⟩, active, -, rfl⟩, rule, ruled, rfl⟩,
    actions, acting, rfl⟩ := decoded
  obtain ⟨_, _, stored, ruled⟩ := required_member ruled
  obtain ⟨_, _, listed, acting⟩ := required_member acting
  obtain ⟨_, taken, full⟩ := Checked.andThen_eq_ok.mp acting
  split at full
  · cases full
  rename_i some
  cases full
  obtain ⟨items, rfl, each⟩ := list_eq_ok.mp taken
  have items_proper := Json.overItems_iff.mp (proper.of_get? listed)
  refine ⟨Rule.over_of_denotes rule ((Rule.read_eq_ok _).mp ruled) (proper.of_get? stored), by simpa using some,
    fun action member => ?_⟩
  obtain ⟨i, bound, rfl⟩ := List.getElem_of_mem member
  have bound' : i < items.length := by rwa [each.length_eq]
  exact Action.valid_of_read (items_proper _ (List.getElem_mem bound')) (each.get bound' bound)

theorem RuleSet.empty_valid {action : Action} (valid : action.Valid) : (empty action).Valid where
  rule := ⟨⟨List.nodup_nil, trivial⟩, trivial⟩
  actions := by simp [empty]
  each other member := by rwa [List.mem_singleton.mp member]

/-- What a value of canonical numbers decodes to is valid. -/
theorem Channel.valid_of_read {value : Json} (proper : value.Proper) {channel : Channel}
    (given : read terms value = .ok channel) : channel.Valid := by
  obtain ⟨members, rfl, decoded⟩ := record_eq_ok.mp given
  clear given
  obtain ⟨_, decoded, including⟩ := Checked.andThen_eq_ok.mp decoded
  split at including
  · cases including
  rename_i includes
  cases including
  simp only [readFields, Checked.seq_eq_ok, Checked.map_eq_ok] at decoded
  obtain ⟨_, ⟨_, ⟨_, ⟨_, ⟨_, ⟨_, ⟨_, ⟨_, ⟨id, named, rfl⟩, _, -, rfl⟩, _, -, rfl⟩, _, -, rfl⟩,
    hours, slowed, rfl⟩, _, -, rfl⟩, _, -, rfl⟩, inclusion, including, rfl⟩, exclusion, excluding, rfl⟩ := decoded
  obtain ⟨_, _, -, spelled⟩ := required_member named
  obtain ⟨given, own, rfl⟩ := Checked.map_eq_ok.mp spelled
  exact {
    named := Text.lower_ne_empty (someText_eq_ok.mp own).2
    lowered := Text.lower_lower given
    hours := by
      rcases optional_member slowed with rfl | ⟨_, _, -, slowed⟩
      · exact le_refl 0
      · exact wholeAtLeast_le slowed
    inclusion := by
      rcases optional_member including with rfl | ⟨_, _, found, including⟩
      · exact RuleSet.empty_valid trivial
      · exact RuleSet.valid_of_read (proper.of_get? found) including
    exclusion := by
      rcases optional_member excluding with rfl | ⟨_, _, found, excluding⟩
      · exact RuleSet.empty_valid trivial
      · exact RuleSet.valid_of_read (proper.of_get? found) excluding
    includes := fun excludes => by simpa [excludes] using includes }

/-- A configuration goes by the name that it was given, in lower case. -/
theorem Channel.id_of_read {members : Json.Members} {channel : Channel}
    (given : read terms (.obj members) = .ok channel) :
    ∃ name, Json.Members.get? "id" members = some (.str name) ∧ channel.id = Text.lower name := by
  obtain ⟨_, decoded, including⟩ := Checked.andThen_eq_ok.mp given
  split at including
  · cases including
  cases including
  simp only [readFields, Checked.seq_eq_ok, Checked.map_eq_ok] at decoded
  obtain ⟨_, ⟨_, ⟨_, ⟨_, ⟨_, ⟨_, ⟨_, ⟨_, ⟨id, named, rfl⟩, _, -, rfl⟩, _, -, rfl⟩, _, -, rfl⟩, _, -, rfl⟩,
    _, -, rfl⟩, _, -, rfl⟩, _, -, rfl⟩, _, -, rfl⟩ := decoded
  obtain ⟨value, found, spelled⟩ := required_eq_ok.mp named
  obtain ⟨name, own, rfl⟩ := Checked.map_eq_ok.mp spelled
  obtain ⟨rfl, -⟩ := someText_eq_ok.mp own
  exact ⟨name, found, rfl⟩

/-- Whatever text a configuration was decoded from, it is valid. -/
theorem Channel.valid_of_text {text : String} {value : Json} (written : Json.read text = .ok value) {channel : Channel}
    (given : read terms value = .ok channel) : channel.Valid :=
  valid_of_read (Json.read_proper written) given

end Curation
