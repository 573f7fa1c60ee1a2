import Curation.Proofs.Intake.Owners
import Curation.Proofs.Rehearsal.Simulation

/-! Exclusion rules that are switched off. They count for a case exactly as far as they
are consulted. For a cast that is nowhere, so it is decided as in a channel without
exclusion rules. For a user who asks to join it is everywhere, as if they were on. -/
namespace Curation

/-- The set switched on. -/
def RuleSet.switchedOn (set : RuleSet) : RuleSet := { set with active := true }

namespace Moderation

open Program (Asks Runs run_bind_congr runs_bind)
open Rehearsal (Stage World answerModeration runModeration evaluate_amid run_evaluate)

/-- The case of a channel with other exclusion rules. -/
def Case.excludedBy (set : RuleSet) (case : Case) : Case :=
  { case with channel := { case.channel with exclusion := set } }

variable {stage : Stage} {deployment : Deployment} {case : Case} {set : RuleSet} {world : World}

/-! ## What the exclusion rules count for -/

private theorem runActions_excludedBy (grounds : Grounds) (actions : List Action) :
    runActions deployment (case.excludedBy set) grounds actions =
      runActions deployment case grounds actions :=
  runActions_amid { case.channel with exclusion := set } grounds actions

/-- No check looks at the exclusion rules of its channel. -/
private theorem asked_excludedBy (rule : Rule) (strategy : OrStrategy) :
    (evaluate (case.excludedBy set) rule strategy).run (answerModeration stage) world =
      (evaluate case rule strategy).run (answerModeration stage) world := by
  rw [run_evaluate, run_evaluate]
  exact evaluate_amid { case.channel with exclusion := set } rule strategy

private theorem include_excludedBy :
    (include_ deployment (case.excludedBy set)).run (answerModeration stage) world =
      (include_ deployment case).run (answerModeration stage) world := by
  refine run_bind_congr (asked_excludedBy _ _) fun included world => ?_
  simp only [runActions_excludedBy]
  rfl

/-- Where the exclusion rules are not consulted, the inclusion rules decide. -/
theorem applyRules_apart (apart : isConsulted case.channel.exclusion case.cast = false) :
    applyRules deployment case = include_ deployment case := by
  simp [applyRules, apart]

private theorem applyRules_consulted
    (consulted : isConsulted case.channel.exclusion case.cast = true) :
    applyRules deployment case =
      (evaluate case case.channel.exclusion.rule (strategyFor case)).bind fun excluded =>
        if excluded.passed then
          runActions deployment case ⟨excluded.explanation, some excluded.rule⟩
            case.channel.exclusion.actions
        else include_ deployment case := by
  simp only [applyRules, consulted]
  rfl

private theorem applyRules_excludedBy
    (consulted : isConsulted set case.cast = isConsulted case.channel.exclusion case.cast)
    (alike : isConsulted set case.cast = true →
      set.rule = case.channel.exclusion.rule ∧ set.actions = case.channel.exclusion.actions) :
    (applyRules deployment (case.excludedBy set)).run (answerModeration stage) world =
      (applyRules deployment case).run (answerModeration stage) world := by
  cases reads : isConsulted set case.cast with
  | false =>
    have apart : isConsulted case.channel.exclusion case.cast = false := consulted.symm.trans reads
    rw [applyRules_apart apart, @applyRules_apart _ (case.excludedBy set) reads]
    exact include_excludedBy
  | true =>
    obtain ⟨rule, actions⟩ := alike reads
    rw [applyRules_consulted (consulted.symm.trans reads),
      @applyRules_consulted _ (case.excludedBy set) reads, ← rule, ← actions]
    refine run_bind_congr (asked_excludedBy _ _) fun excluded world => ?_
    split
    · rw [runActions_excludedBy]
      rfl
    · exact include_excludedBy

/-- Exclusion rules count only as far as they are consulted: sets that are consulted alike for a
case, with the same tree and the same actions if they are consulted at all, decide it alike. -/
theorem moderate_excludedBy
    (consulted : isConsulted set case.cast = isConsulted case.channel.exclusion case.cast)
    (alike : isConsulted set case.cast = true →
      set.rule = case.channel.exclusion.rule ∧ set.actions = case.channel.exclusion.actions) :
    runModeration stage (moderate deployment (case.excludedBy set)) world =
      runModeration stage (moderate deployment case) world := by
  have same : (moderate deployment (case.excludedBy set)).run (answerModeration stage) world =
      (moderate deployment case).run (answerModeration stage) world := by
    refine run_bind_congr rfl fun bypass? world => ?_
    cases bypass? with
    | some reason => simp only [runActions_excludedBy]
    | none =>
      refine run_bind_congr rfl fun keptAway? world => ?_
      cases keptAway? with
      | some reason => simp only [runActions_excludedBy]
      | none =>
        cases rules : case.channel.inclusion.hasConditions with
        | false =>
          simp only [Case.excludedBy, rules]
          exact congrArg (fun acting : Moderation (List Log) => acting.run _ world)
            (runActions_excludedBy _ _)
        | true =>
          simp only [Case.excludedBy, rules, if_true]
          exact applyRules_excludedBy consulted alike
  simp only [runModeration, same]

/-! ## What is evaluated for a cast -/

variable {transcript : Transcript} {logs : List Log}

private theorem bypassReason?_acts : Asks (·.isActing = true) (bypassReason? deployment case) := by
  unfold bypassReason?
  simp only [Program.bind_eq, Program.pure_eq]
  split
  · exact .done _
  · refine (ofFetch_asks isActing_reads _).bind fun owner => ?_
    split
    · exact .done _
    · split
      · refine .ask rfl fun tables => ?_
        simp only [Program.bind]
        split
        · exact .done _
        · exact .done _
      · exact .done _

private theorem keptAwayReason?_acts : Asks (·.isActing = true) (keptAwayReason? case) := by
  unfold keptAwayReason?
  split
  · exact .done _
  · exact .ask rfl fun tables => (now_asks isActing_reads.clock).bind fun time => .done _

private theorem rulesAsked_of_asks {α : Type} {program : Moderation α} {outcome : Except Failure α}
    (acting : Asks (·.isActing = true) program) (run : Runs program transcript outcome) :
    rulesAsked transcript = [] :=
  rulesAsked_acting (acting.of_runs run)

/-- What comes before the first evaluation has no rule evaluated. -/
private theorem rulesAsked_after {α β : Type} {first : Moderation α} {rest : α → Moderation β}
    {outcome : Except Failure β} (acting : Asks (·.isActing = true) first)
    (run : Runs (first.bind rest) transcript outcome) :
    rulesAsked transcript = [] ∨
      ∃ value after, Runs (rest value) after outcome ∧ rulesAsked transcript = rulesAsked after := by
  rcases runs_bind.mp run with ⟨fault, rfl, failed⟩ | ⟨before, value, after, rfl, ended, later⟩
  · exact .inl (rulesAsked_of_asks acting failed)
  · refine .inr ⟨value, after, later, ?_⟩
    rw [rulesAsked_append, rulesAsked_of_asks acting ended, List.nil_append]

private theorem include_evaluates {outcome : Except Failure (List Log)}
    (run : Runs (include_ deployment case) transcript outcome) :
    rulesAsked transcript = [case.channel.inclusion.rule] := by
  cases run with
  | ask decided run =>
    rename_i later
    have acting : rulesAsked later = [] := by
      cases decided with
      | error failure =>
        cases run
        rfl
      | ok included =>
        refine rulesAsked_of_asks ?_ run
        simp only [Program.ofExcept, Program.bind]
        split
        · exact runActions_asks deployment case _ _
        · refine (runActions_asks deployment case _ _).bind fun logs => ?_
          split
          · exact (startSlowMode_asks case).bind fun _ => .done logs
          · exact .done logs
    exact congrArg (case.channel.inclusion.rule :: ·) acting

/-- Where the exclusion rules are not consulted, every run, one that fails as well, has at most
the inclusion rules evaluated, and once. -/
theorem rulesAsked_apart {outcome : Except Failure (List Log)}
    (apart : isConsulted case.channel.exclusion case.cast = false)
    (run : Runs (moderate deployment case) transcript outcome) :
    (rulesAsked transcript).Sublist [case.channel.inclusion.rule] := by
  rcases rulesAsked_after bypassReason?_acts run with none_ | ⟨bypass?, after, run, same⟩
  · exact none_ ▸ List.nil_sublist _
  rw [same]
  cases bypass? with
  | some reason => exact rulesAsked_of_asks (runActions_asks _ _ _ _) run ▸ List.nil_sublist _
  | none =>
    rcases rulesAsked_after keptAwayReason?_acts run with none_ | ⟨keptAway?, after, run, same⟩
    · exact none_ ▸ List.nil_sublist _
    rw [same]
    cases keptAway? with
    | some reason => exact rulesAsked_of_asks (runActions_asks _ _ _ _) run ▸ List.nil_sublist _
    | none =>
      simp only at run
      split at run
      · rw [applyRules_apart apart] at run
        exact include_evaluates run ▸ List.Sublist.refl _
      · exact rulesAsked_of_asks (runActions_asks _ _ _ _) run ▸ List.nil_sublist _

/-! ## Users and casts -/

/-- A set that is switched off is consulted for no cast. -/
theorem isConsulted_off (off : set.active = false) {cast? : Option Cast}
    (cast : cast?.isSome = true) : isConsulted set cast? = false := by
  obtain ⟨cast, rfl⟩ := Option.isSome_iff_exists.mp cast
  simp [isConsulted, off]

/-- A set without conditions is consulted for nobody. -/
theorem isConsulted_bare (bare : set.hasConditions = false) (cast? : Option Cast) :
    isConsulted set cast? = false := by
  simp [isConsulted, bare]

/-- What a user who asks to join meets before the inclusion rules: unless no rule applies to the
user, or none are configured, the exclusion rules are evaluated and exclude if they pass. -/
theorem Stops.excludes {gate : Gate} {grounds : Grounds} {seen : Transcript}
    (joins : case.cast = none) (rules : case.channel.exclusion.hasConditions = true)
    (stops : Stops deployment case gate grounds seen) :
    gate = .exempt ∨ gate = .noRules ∨ ∃ decision,
      ⟨.evaluate case case.channel.exclusion.rule .shortCircuit, .ok decision⟩ ∈ seen ∧
        (gate = .excluded ↔ decision.passed = true) := by
  have in_order : strategyFor case = .shortCircuit := by simp [strategyFor, joins]
  have applies : Applies case.channel.exclusion case.cast := by simp [Applies, joins, rules]
  cases stops with
  | exempt => exact .inl rfl
  | suspended _ suspended =>
    cases suspended with
    | row cast =>
      rw [joins] at cast
      cases cast
  | noRules => exact .inr (.inl rfl)
  | @excluded _ _ decision _ _ _ _ passed =>
    refine .inr (.inr ⟨decision, ?_, iff_of_true rfl passed⟩)
    rw [← in_order]
    simp
  | rejected _ _ _ spared | included _ _ _ spared =>
    cases spared with
    | apart apart => exact absurd applies apart
    | @failed decision _ failed =>
      refine .inr (.inr ⟨decision, ?_, by simp [failed]⟩)
      rw [← in_order]
      simp

/-- Switching the exclusion rules off spares casts: no run about a cast has them evaluated or carries
their actions out, and it ends as in the same channel with any exclusion rules without conditions.
Users who ask to join are not spared: they are decided as if the rules were on. So as soon as there
are conditions, they are evaluated for every user whom rules apply to, and their actions are carried
out if they pass. -/
theorem switched_off_exclusion_spares_casts_only (stage : Stage) (case : Case)
    (off : case.channel.exclusion.active = false) :
    (case.cast.isSome = true →
      (∀ transcript outcome, Runs (moderate stage.deployment case) transcript outcome →
        (rulesAsked transcript).Sublist [case.channel.inclusion.rule]) ∧
      (∀ transcript logs, Runs (moderate stage.deployment case) transcript (.ok logs) →
        ∃ gate grounds seen done_, transcript = seen ++ done_ ∧
          Stops stage.deployment case gate grounds seen ∧ gate ≠ .excluded ∧
          List.Forall₂ (Enters case grounds) (gate.actions case) logs) ∧
      ∀ bare : RuleSet, bare.hasConditions = false → ∀ world,
        runModeration stage (moderate stage.deployment case) world =
          runModeration stage (moderate stage.deployment (case.excludedBy bare)) world) ∧
    (case.cast = none →
      (∀ world, runModeration stage (moderate stage.deployment case) world =
        runModeration stage
          (moderate stage.deployment (case.excludedBy case.channel.exclusion.switchedOn)) world) ∧
      (case.channel.exclusion.hasConditions = false → ∀ bare : RuleSet, bare.hasConditions = false →
        ∀ world, runModeration stage (moderate stage.deployment case) world =
          runModeration stage (moderate stage.deployment (case.excludedBy bare)) world) ∧
      (case.channel.exclusion.hasConditions = true → ∀ transcript logs,
        Runs (moderate stage.deployment case) transcript (.ok logs) →
        ∃ gate grounds seen done_, transcript = seen ++ done_ ∧
          Stops stage.deployment case gate grounds seen ∧
          List.Forall₂ (Enters case grounds) (gate.actions case) logs ∧
          (gate = .exempt ∨ gate = .noRules ∨ ∃ decision,
            ⟨.evaluate case case.channel.exclusion.rule .shortCircuit, .ok decision⟩ ∈ seen ∧
              (gate = .excluded ↔ decision.passed = true)))) := by
  have decided {transcript : Transcript} {logs : List Log}
      (returned : Runs (moderate stage.deployment case) transcript (.ok logs)) :
      ∃ gate grounds seen done_, transcript = seen ++ done_ ∧
        Stops stage.deployment case gate grounds seen ∧
        List.Forall₂ (Enters case grounds) (gate.actions case) logs := by
    obtain ⟨gate, grounds, seen, done_, rfl, judged, acted⟩ := runs_moderate_ok.mp returned
    exact ⟨gate, grounds, seen, done_, rfl, judge_stops judged, enact_enters acted⟩
  have as_bare (apart : isConsulted case.channel.exclusion case.cast = false) (bare : RuleSet)
      (empty : bare.hasConditions = false) (world : World) :
      runModeration stage (moderate stage.deployment case) world =
        runModeration stage (moderate stage.deployment (case.excludedBy bare)) world := by
    have unread := isConsulted_bare empty case.cast
    refine (moderate_excludedBy (unread.trans apart.symm) fun read => ?_).symm
    rw [unread] at read
    cases read
  refine ⟨fun cast => ?_, fun joins => ⟨fun world => ?_, fun empty => ?_, ?_⟩⟩
  · have apart := isConsulted_off off cast
    refine ⟨fun _ _ run => rulesAsked_apart apart run, fun _ _ returned => ?_, as_bare apart⟩
    obtain ⟨gate, grounds, seen, done_, whole, stops, entered⟩ := decided returned
    refine ⟨gate, grounds, seen, done_, whole, stops, fun excluded => ?_, entered⟩
    subst excluded
    cases stops with
    | excluded _ _ _ applies =>
      rw [(isConsulted_iff _ _).mpr applies] at apart
      cases apart
  · have alike : isConsulted case.channel.exclusion.switchedOn case.cast =
        isConsulted case.channel.exclusion case.cast := by
      rw [joins]
      rfl
    exact (moderate_excludedBy alike fun _ => ⟨rfl, rfl⟩).symm
  · exact as_bare (isConsulted_bare empty _)
  · intro rules transcript logs returned
    obtain ⟨gate, grounds, seen, done_, whole, stops, entered⟩ := decided returned
    exact ⟨gate, grounds, seen, done_, whole, stops, entered, stops.excludes joins rules⟩

/-! ## A user whom switched-off rules turn away -/

section Witness

/-- A channel that lets everyone in, with exclusion rules that are switched off. -/
def openChannel : Channel :=
  { (default : Channel) with
    id := "c"
    inclusion := ⟨none, .all, true, .condition ⟨"alwaysInclude", []⟩, [.like]⟩
    exclusion := ⟨none, .all, false, .condition ⟨"userProfileContainsText", []⟩, [.mute]⟩ }

/-- Somebody other than its owner asks to join. -/
def openCase : Case := ⟨openChannel, { fid := 8 }, none, true⟩

/-- The rules are off, and yet they are evaluated and the user is muted, whom a channel without them
lets in. -/
theorem openChannel_turns_away :
    let stage : Stage := ⟨⟨default, ⟨[], .nil⟩, false, 60, 1⟩, .whole 20, .whole 10⟩
    let rule := openChannel.exclusion.rule
    let found : Decision := ⟨true, "found", rule⟩
    let log := entry openCase ⟨"found", some rule⟩ "mute" "sim-1" Moment.epoch
    openChannel.exclusion.active = false ∧
      (∃ transcript, ⟨.evaluate openCase rule .shortCircuit, .ok found⟩ ∈ transcript ∧
        Runs (moderate stage.deployment openCase) transcript (.ok [log]) ∧
        ∃ gate grounds seen done_, transcript = seen ++ done_ ∧
          Stops stage.deployment openCase gate grounds seen ∧
          List.Forall₂ (Enters openCase grounds) (gate.actions openCase) [log] ∧
          (gate = .exempt ∨ gate = .noRules ∨ ∃ decision,
            ⟨.evaluate openCase rule .shortCircuit, .ok decision⟩ ∈ seen ∧
              (gate = .excluded ↔ decision.passed = true))) ∧
      ∃ transcript log, log.action = "like" ∧
        Runs (moderate stage.deployment (openCase.excludedBy (.empty .hideQuietly))) transcript
          (.ok [log]) := by
  intro stage rule found log
  have off : openChannel.exclusion.active = false := rfl
  obtain ⟨_, owner⟩ :=
    Intake.owner_runs stage.deployment.directory openChannel.id Intake.read_ownerText
  obtain ⟨asked, owner, -⟩ := Intake.ofFetch_runs owner ⟨{}, [], {}, 0⟩
  have ordinary : Runs (bypassReason? stage.deployment openCase) asked (.ok none) := by
    refine Program.runs_bind.mpr (.inr ⟨asked, 7, [], (List.append_nil _).symm, owner, ?_⟩)
    exact .done none
  let entering : Transcript := [⟨.clock, some .epoch⟩, ⟨.newId, "1"⟩]
  let later : Transcript := ⟨.evaluate openCase rule .shortCircuit, .ok found⟩ :: entering
  have returned : Runs (moderate stage.deployment openCase) (asked ++ later) (.ok [log]) := by
    refine Program.runs_bind.mpr (.inr ⟨asked, none, later, rfl, ordinary, ?_⟩)
    exact .ask _ (.ask _ (.ask _ (.done _)))
  let bareCase := openCase.excludedBy (.empty .hideQuietly)
  let passed : Decision := ⟨true, "passed", bareCase.channel.inclusion.rule⟩
  let later' : Transcript :=
    ⟨.evaluate bareCase bareCase.channel.inclusion.rule .shortCircuit, .ok passed⟩ :: entering
  have let_in : Runs (moderate stage.deployment bareCase) (asked ++ later')
      (.ok [entry bareCase ⟨"passed", some passed.rule⟩ "like" "sim-1" Moment.epoch]) := by
    refine Program.runs_bind.mpr (.inr ⟨asked, none, later', rfl, ordinary, ?_⟩)
    exact .ask _ (.ask _ (.ask _ (.done _)))
  refine ⟨off, ⟨_, List.mem_append_right _ (.head _), returned, ?_⟩, _, _, rfl, let_in⟩
  exact ((switched_off_exclusion_spares_casts_only stage openCase off).2 rfl).2.2 rfl _ _ returned

end Witness

end Moderation

end Curation
