import Curation.Proofs.Moderation.Entries
import Curation.Proofs.Moderation.Questions

/-! The gates that a case passes before anything is done about it. A run that returns
judges its case first and carries out the actions of one gate then, the first that
stops it. What a gate found is told by the exchanges of the run, so this holds in
all surroundings. -/
namespace Curation.Moderation

open Program (Runs Asks runs_bind_ok)

/-- The gates, in their order, by what stops a case there. -/
inductive Gate where
  | exempt
  | suspended
  | noRules
  | excluded
  | rejected
  | included
  deriving DecidableEq

/-- The actions for the cases that a gate stops. -/
def Gate.actions (case : Case) : Gate → List Action
  | .exempt => [.like]
  | .suspended | .noRules | .rejected => [.hideQuietly]
  | .excluded => case.channel.exclusion.actions
  | .included => case.channel.inclusion.actions

/-- The rules whose checks have been at work by then. -/
def Gate.consulted (case : Case) : Gate → List Rule
  | .exempt | .suspended | .noRules => []
  | .excluded => [case.channel.exclusion.rule]
  | .rejected | .included =>
    if isConsulted case.channel.exclusion case.cast then
      [case.channel.exclusion.rule, case.channel.inclusion.rule]
    else [case.channel.inclusion.rule]

/-- The rules that a run had evaluated, in order. -/
def rulesAsked (transcript : Transcript) : List Rule :=
  transcript.filterMap fun exchange =>
    match exchange.1 with
    | .evaluate _ rule _ => some rule
    | _ => none

/-! ## What the gates find -/

section Findings

variable (deployment : Deployment) (case : Case)

/-- Asks the network who owns the channel. -/
def ownerOf : Moderation Int := ofFetch (Remote.Channels.owner deployment.directory case.channel.id)

/-- No rule applies to the user. -/
inductive Exempt : String → Transcript → Prop where
  | listed : case.channel.isBypassed case.user.fid = true →
    Exempt s!"@{case.user.username} is in the bypass list." []
  | owner {transcript : Transcript} : case.channel.isBypassed case.user.fid = false →
    Runs (ownerOf deployment case) transcript (.ok case.user.fid) →
    Exempt s!"@{case.user.username} is the channel owner" transcript
  | cohost {transcript : Transcript} {owner : Int} {tables : Store.Tables} :
    case.channel.isBypassed case.user.fid = false →
    Runs (ownerOf deployment case) transcript (.ok owner) → owner ≠ case.user.fid →
    case.channel.excludeCohosts = true →
    toString case.user.fid ∈ tables.cohosts case.channel.id →
    Exempt s!"@{case.user.username} is a cohost" (transcript ++ [⟨.tables, tables⟩])

/-- Rules apply to the user: neither listed nor the owner nor a cohost that counts. -/
inductive Ordinary : Transcript → Prop where
  | anyCohost {transcript : Transcript} {owner : Int} :
    case.channel.isBypassed case.user.fid = false →
    Runs (ownerOf deployment case) transcript (.ok owner) → owner ≠ case.user.fid →
    case.channel.excludeCohosts = false → Ordinary transcript
  | noCohost {transcript : Transcript} {owner : Int} {tables : Store.Tables} :
    case.channel.isBypassed case.user.fid = false →
    Runs (ownerOf deployment case) transcript (.ok owner) → owner ≠ case.user.fid →
    toString case.user.fid ∉ tables.cohosts case.channel.id →
    Ordinary (transcript ++ [⟨.tables, tables⟩])

/-- A suspension is active and has no end or one to come. -/
def KeepsAway (row : Store.CooldownRow) (time : Moment) : Prop :=
  row.active = true ∧
    ∀ expiresAt, row.expiresAt = some expiresAt → time.utcMicros < expiresAt.asUtc.utcMicros

/-- The author of the cast is suspended. -/
inductive Suspended : String → Transcript → Prop where
  | row {tables : Store.Tables} {time : Moment} {row : Store.CooldownRow} {reason : String} :
    case.cast.isSome = true →
    tables.cooldown? case.channel.id (toString case.user.fid) = some row → KeepsAway row time →
    suspensionReason? case.user.username time (some row) = some reason →
    Suspended reason [⟨.tables, tables⟩, ⟨.clock, some time⟩]

/-- There is no cast, or no suspension of its author. -/
inductive Free : Transcript → Prop where
  | noCast : case.cast = none → Free []
  | author {tables : Store.Tables} {time : Moment} : case.cast.isSome = true →
    (∀ row, tables.cooldown? case.channel.id (toString case.user.fid) = some row →
      ¬ KeepsAway row time) →
    Free [⟨.tables, tables⟩, ⟨.clock, some time⟩]

/-- There are rules in a set, and a cast, if there is one, is of the kind that they are
active for. -/
def Applies (set : RuleSet) (cast? : Option Cast) : Prop :=
  set.hasConditions = true ∧
    ∀ cast, cast? = some cast → set.active = true ∧ set.target.covers cast.isReply = true

/-- The exclusion rules do not apply or fail. -/
inductive Spared : Transcript → Prop where
  | apart : ¬ Applies case.channel.exclusion case.cast → Spared []
  | failed {decision : Decision} : Applies case.channel.exclusion case.cast →
    decision.passed = false →
    Spared [⟨.evaluate case case.channel.exclusion.rule (strategyFor case), .ok decision⟩]

/-- A gate stops the case on these grounds: all before it let it pass. -/
inductive Stops : Gate → Grounds → Transcript → Prop where
  | exempt {reason : String} {seen : Transcript} :
    Exempt deployment case reason seen → Stops .exempt ⟨reason, none⟩ seen
  | suspended {reason : String} {seen seen' : Transcript} :
    Ordinary deployment case seen → Suspended case reason seen' →
    Stops .suspended ⟨reason, none⟩ (seen ++ seen')
  | noRules {seen seen' : Transcript} :
    Ordinary deployment case seen → Free case seen' → case.channel.inclusion.hasConditions = false →
    Stops .noRules ⟨noRulesReason, none⟩ (seen ++ seen')
  | excluded {seen seen' : Transcript} {decision : Decision} :
    Ordinary deployment case seen → Free case seen' → case.channel.inclusion.hasConditions = true →
    Applies case.channel.exclusion case.cast → decision.passed = true →
    Stops .excluded ⟨decision.explanation, some decision.rule⟩
      (seen ++ (seen' ++
        [⟨.evaluate case case.channel.exclusion.rule (strategyFor case), .ok decision⟩]))
  | rejected {seen seen' seen'' : Transcript} {decision : Decision} :
    Ordinary deployment case seen → Free case seen' → case.channel.inclusion.hasConditions = true →
    Spared case seen'' → decision.passed = false →
    Stops .rejected ⟨decision.explanation, none⟩
      (seen ++ (seen' ++ (seen'' ++
        [⟨.evaluate case case.channel.inclusion.rule (strategyFor case), .ok decision⟩])))
  | included {seen seen' seen'' : Transcript} {decision : Decision} :
    Ordinary deployment case seen → Free case seen' → case.channel.inclusion.hasConditions = true →
    Spared case seen'' → decision.passed = true →
    Stops .included ⟨decision.explanation, some decision.rule⟩
      (seen ++ (seen' ++ (seen'' ++
        [⟨.evaluate case case.channel.inclusion.rule (strategyFor case), .ok decision⟩])))

end Findings

/-! ## Judging apart from acting -/

/-- What the inclusion rules find. -/
def judgeInclusion (case : Case) : Moderation (Gate × Grounds) := do
  let included ← evaluate case case.channel.inclusion.rule (strategyFor case)
  if included.passed then return (.included, ⟨included.explanation, some included.rule⟩)
  else return (.rejected, ⟨included.explanation, none⟩)

/-- What the exclusion rules find, and the inclusion rules after them. -/
def judgeRules (case : Case) : Moderation (Gate × Grounds) := do
  let set := case.channel.exclusion
  if isConsulted set case.cast then
    let excluded ← evaluate case set.rule (strategyFor case)
    if excluded.passed then return (.excluded, ⟨excluded.explanation, some excluded.rule⟩)
    else judgeInclusion case
  else judgeInclusion case

/-- The gate that stops a case, and why. -/
def judge (deployment : Deployment) (case : Case) : Moderation (Gate × Grounds) := do
  match ← bypassReason? deployment case with
  | some reason => return (.exempt, ⟨reason, none⟩)
  | none =>
    match ← keptAwayReason? case with
    | some reason => return (.suspended, ⟨reason, none⟩)
    | none =>
      if case.channel.inclusion.hasConditions then judgeRules case
      else return (.noRules, ⟨noRulesReason, none⟩)

/-- What is done about a case at a gate. -/
def enact (deployment : Deployment) (case : Case) (gate : Gate) (grounds : Grounds) :
    Moderation (List Log) := do
  let logs ← runActions deployment case grounds (gate.actions case)
  if decide (gate = .included) && case.cast.isSome && !case.simulation &&
      decide (0 < case.channel.slowModeHours) then
    startSlowMode case
  return logs

variable {deployment : Deployment} {case : Case}

private theorem enact_eq (gate : Gate) (other : gate ≠ .included) (grounds : Grounds) :
    enact deployment case gate grounds = runActions deployment case grounds (gate.actions case) := by
  simp [enact, other]

private theorem include_eq :
    include_ deployment case =
      (judgeInclusion case).bind fun (gate, grounds) => enact deployment case gate grounds := by
  simp only [include_, judgeInclusion, Program.bind_eq, Program.bind_assoc]
  congr 1
  funext included
  cases passed : included.passed with
  | false => exact (enact_eq .rejected (by decide) _).symm
  | true => simp [enact, Gate.actions, Program.bind]

private theorem applyRules_eq :
    applyRules deployment case =
      (judgeRules case).bind fun (gate, grounds) => enact deployment case gate grounds := by
  simp only [applyRules, judgeRules, Program.bind_eq]
  split
  · simp only [Program.bind_assoc]
    congr 1
    funext excluded
    cases passed : excluded.passed with
    | false => exact include_eq
    | true => exact (enact_eq .excluded (by decide) _).symm
  · exact include_eq

/-- A case is judged first, and then its gate's actions are carried out. -/
theorem moderate_eq (deployment : Deployment) (case : Case) :
    moderate deployment case =
      (judge deployment case).bind fun (gate, grounds) => enact deployment case gate grounds := by
  simp only [moderate, judge, Program.bind_eq, Program.bind_assoc]
  congr 1
  funext bypass?
  cases bypass? with
  | some reason => exact (enact_eq .exempt (by decide) _).symm
  | none =>
    simp only [Program.bind_assoc]
    congr 1
    funext keptAway?
    cases keptAway? with
    | some reason => exact (enact_eq .suspended (by decide) _).symm
    | none =>
      simp only
      split
      · exact applyRules_eq
      · exact (enact_eq .noRules (by decide) _).symm

/-- A run that returns is a judgement, and then the actions of its gate. -/
theorem runs_moderate_ok {transcript : Transcript} {logs : List Log} :
    Runs (moderate deployment case) transcript (.ok logs) ↔
      ∃ gate grounds seen done_, transcript = seen ++ done_ ∧
        Runs (judge deployment case) seen (.ok (gate, grounds)) ∧
        Runs (enact deployment case gate grounds) done_ (.ok logs) := by
  rw [moderate_eq, runs_bind_ok]
  constructor
  · rintro ⟨seen, ⟨gate, grounds⟩, done_, whole, judged, acted⟩
    exact ⟨gate, grounds, seen, done_, whole, judged, acted⟩
  · rintro ⟨gate, grounds, seen, done_, whole, judged, acted⟩
    exact ⟨seen, (gate, grounds), done_, whole, judged, acted⟩

/-! ## What a judgement has seen -/

private theorem runs_evaluate {rule : Rule} {strategy : OrStrategy} {seen : Transcript}
    {decision : Decision} (run : Runs (evaluate case rule strategy) seen (.ok decision)) :
    seen = [⟨.evaluate case rule strategy, .ok decision⟩] := by
  cases run with
  | ask answer run =>
    cases answer with
    | ok other => cases run; rfl
    | error failure => cases run

private theorem exempt_or_ordinary {reason? : Option String} {seen : Transcript}
    (run : Runs (bypassReason? deployment case) seen (.ok reason?)) :
    (∃ reason, reason? = some reason ∧ Exempt deployment case reason seen) ∨
      (reason? = none ∧ Ordinary deployment case seen) := by
  unfold bypassReason? at run
  simp only [Program.bind_eq, Program.pure_eq] at run
  split at run
  · rename_i listed
    cases run
    exact .inl ⟨_, rfl, .listed listed⟩
  rename_i listed
  have unlisted : case.channel.isBypassed case.user.fid = false := by simpa using listed
  obtain ⟨before, owner, after, rfl, asked, run⟩ := runs_bind_ok.mp run
  split at run
  · rename_i same
    cases run
    subst same
    rw [List.append_nil]
    exact .inl ⟨_, rfl, .owner unlisted asked⟩
  rename_i other
  split at run
  · rename_i counts
    cases run with
    | ask tables run =>
      simp only [Program.bind] at run
      split at run
      · rename_i cohost
        cases run
        exact .inl ⟨_, rfl, .cohost unlisted asked other counts (by simpa using cohost)⟩
      · rename_i noCohost
        cases run
        exact .inr ⟨rfl, .noCohost unlisted asked other (by simpa using noCohost)⟩
  · rename_i counts
    cases run
    rw [List.append_nil]
    exact .inr ⟨rfl, .anyCohost unlisted asked other (by simpa using counts)⟩

private theorem suspensionReason?_some {row? : Option Store.CooldownRow} {time : Moment}
    {username reason : String} (suspended : suspensionReason? username time row? = some reason) :
    ∃ row, row? = some row ∧ KeepsAway row time := by
  unfold suspensionReason? at suspended
  split at suspended
  · cases suspended
  · rename_i row
    refine ⟨row, rfl, ?_⟩
    split at suspended
    · cases suspended
    rename_i active
    refine ⟨by simpa using active, fun expiresAt ends => ?_⟩
    simp only [ends] at suspended
    split at suspended
    · cases suspended
    · rename_i later
      exact Int.not_le.mp later

private theorem suspensionReason?_none {row : Store.CooldownRow} {time : Moment} {username : String}
    (free : suspensionReason? username time (some row) = none) : ¬ KeepsAway row time := by
  rintro ⟨active, ends⟩
  simp only [suspensionReason?, active] at free
  split at free
  · rename_i inactive
    cases inactive
  · split at free
    · cases free
    · rename_i expiresAt known
      have later := ends expiresAt known
      split at free
      · omega
      · cases free

private theorem suspended_or_free {reason? : Option String} {seen : Transcript}
    (run : Runs (keptAwayReason? case) seen (.ok reason?)) :
    (∃ reason, reason? = some reason ∧ Suspended case reason seen) ∨
      (reason? = none ∧ Free case seen) := by
  unfold keptAwayReason? at run
  simp only [Program.bind_eq, Program.pure_eq] at run
  split at run
  · rename_i noCast
    cases run
    exact .inr ⟨rfl, .noCast (by simpa using noCast)⟩
  rename_i cast
  have cast : case.cast.isSome = true := by simpa [Option.isSome_iff_ne_none] using cast
  cases run with
  | ask tables run =>
    simp only [Program.bind] at run
    obtain ⟨before, time, after, rfl, asked, rest⟩ := runs_bind_ok.mp run
    obtain rfl := runs_now asked
    cases rest
    cases reason : suspensionReason? case.user.username time
        (tables.cooldown? case.channel.id (toString case.user.fid)) with
    | some reason_ =>
      obtain ⟨row, found, away⟩ := suspensionReason?_some reason
      rw [found] at reason
      exact .inl ⟨reason_, rfl, .row cast found away reason⟩
    | none =>
      refine .inr ⟨rfl, .author cast fun row found => ?_⟩
      rw [found] at reason
      exact suspensionReason?_none reason

theorem isConsulted_iff (set : RuleSet) (cast? : Option Cast) :
    isConsulted set cast? = true ↔ Applies set cast? := by
  unfold isConsulted Applies
  cases cast? with
  | none => simp
  | some cast => simp

private theorem judgeInclusion_stops {seen seen' seen'' : Transcript} {gate : Gate}
    {grounds : Grounds} (ordinary : Ordinary deployment case seen) (free : Free case seen')
    (some_rules : case.channel.inclusion.hasConditions = true) (spared : Spared case seen'')
    {rest : Transcript} (run : Runs (judgeInclusion case) rest (.ok (gate, grounds))) :
    Stops deployment case gate grounds (seen ++ (seen' ++ (seen'' ++ rest))) := by
  obtain ⟨before, decision, after, rfl, asked, decided⟩ := runs_bind_ok.mp run
  obtain rfl := runs_evaluate asked
  split at decided
  · rename_i passed
    cases decided
    exact .included ordinary free some_rules spared passed
  · rename_i failed
    cases decided
    exact .rejected ordinary free some_rules spared (by simpa using failed)

private theorem judgeRules_stops {seen seen' : Transcript} {gate : Gate}
    {grounds : Grounds} (ordinary : Ordinary deployment case seen) (free : Free case seen')
    (some_rules : case.channel.inclusion.hasConditions = true)
    {rest : Transcript} (run : Runs (judgeRules case) rest (.ok (gate, grounds))) :
    Stops deployment case gate grounds (seen ++ (seen' ++ rest)) := by
  simp only [judgeRules, Program.bind_eq] at run
  split at run
  · rename_i consulted
    have applies := (isConsulted_iff _ _).mp consulted
    obtain ⟨before, decision, after, rfl, asked, decided⟩ := runs_bind_ok.mp run
    obtain rfl := runs_evaluate asked
    split at decided
    · rename_i passed
      cases decided
      exact .excluded ordinary free some_rules applies passed
    · rename_i failed
      have spared : Spared case _ := .failed applies (by simpa using failed)
      exact judgeInclusion_stops ordinary free some_rules spared decided
  · rename_i apart
    have spared : Spared case [] := .apart fun applies => apart ((isConsulted_iff _ _).mpr applies)
    exact judgeInclusion_stops ordinary free some_rules spared run

/-- What a judgement says is what its exchanges say. -/
theorem judge_stops {gate : Gate} {grounds : Grounds} {seen : Transcript}
    (run : Runs (judge deployment case) seen (.ok (gate, grounds))) :
    Stops deployment case gate grounds seen := by
  obtain ⟨before, bypass?, after, rfl, asked, run⟩ := runs_bind_ok.mp run
  rcases exempt_or_ordinary asked with ⟨reason, rfl, exempt⟩ | ⟨rfl, ordinary⟩
  · cases run
    rw [List.append_nil]
    exact .exempt exempt
  obtain ⟨before', keptAway?, after, rfl, asked, run⟩ := runs_bind_ok.mp run
  rcases suspended_or_free asked with ⟨reason, rfl, suspended⟩ | ⟨rfl, free⟩
  · cases run
    rw [List.append_nil]
    exact .suspended ordinary suspended
  simp only at run
  split at run
  · rename_i some_rules
    exact judgeRules_stops ordinary free some_rules run
  · rename_i none_
    cases run
    rw [List.append_nil]
    exact .noRules ordinary free (by simpa using none_)

/-! ## What a judgement has asked -/

theorem rulesAsked_append (before after : Transcript) :
    rulesAsked (before ++ after) = rulesAsked before ++ rulesAsked after :=
  List.filterMap_append

theorem rulesAsked_acting {transcript : Transcript}
    (acting : ∀ exchange ∈ transcript, exchange.1.isActing = true) : rulesAsked transcript = [] := by
  refine List.filterMap_eq_nil_iff.mpr fun exchange member => ?_
  have acts := acting exchange member
  split
  · rename_i evaluates
    rw [evaluates] at acts
    cases acts
  · rfl

private theorem rulesAsked_owner {seen : Transcript} {owner : Int}
    (run : Runs (ownerOf deployment case) seen (.ok owner)) : rulesAsked seen = [] :=
  rulesAsked_acting ((ofFetch_asks isActing_reads _).of_runs run)

private theorem Exempt.rulesAsked {reason : String} {seen : Transcript}
    (exempt : Exempt deployment case reason seen) : rulesAsked seen = [] := by
  cases exempt with
  | listed => rfl
  | owner _ asked => exact rulesAsked_owner asked
  | cohost _ asked =>
    rw [rulesAsked_append, rulesAsked_owner asked]
    rfl

private theorem Ordinary.rulesAsked {seen : Transcript} (ordinary : Ordinary deployment case seen) :
    rulesAsked seen = [] := by
  cases ordinary with
  | anyCohost _ asked => exact rulesAsked_owner asked
  | noCohost _ asked =>
    rw [rulesAsked_append, rulesAsked_owner asked]
    rfl

private theorem Free.rulesAsked {seen : Transcript} (free : Free case seen) :
    rulesAsked seen = [] := by
  cases free with
  | noCast | author => rfl

private theorem Spared.rulesAsked {seen : Transcript} (spared : Spared case seen) :
    rulesAsked seen ++ [case.channel.inclusion.rule] = Gate.consulted case .included := by
  cases spared with
  | apart apart =>
    rw [← isConsulted_iff] at apart
    simp [Moderation.rulesAsked, Gate.consulted, apart]
  | failed applies =>
    rw [← isConsulted_iff] at applies
    simp [Moderation.rulesAsked, Gate.consulted, applies]

theorem Stops.rulesAsked {gate : Gate} {grounds : Grounds} {seen : Transcript}
    (stops : Stops deployment case gate grounds seen) : rulesAsked seen = gate.consulted case := by
  cases stops with
  | exempt exempt => exact exempt.rulesAsked
  | suspended ordinary suspended =>
    rw [rulesAsked_append, ordinary.rulesAsked]
    cases suspended
    rfl
  | noRules ordinary free =>
    rw [rulesAsked_append, ordinary.rulesAsked, free.rulesAsked]
    rfl
  | excluded ordinary free =>
    rw [rulesAsked_append, rulesAsked_append, ordinary.rulesAsked, free.rulesAsked]
    rfl
  | rejected ordinary free _ spared | included ordinary free _ spared =>
    rw [rulesAsked_append, rulesAsked_append, rulesAsked_append, ordinary.rulesAsked,
      free.rulesAsked]
    exact spared.rulesAsked

theorem enact_asks (deployment : Deployment) (case : Case) (gate : Gate) (grounds : Grounds) :
    Asks (·.isActing = true) (enact deployment case gate grounds) := by
  refine (runActions_asks deployment case grounds _).bind fun logs => ?_
  simp only [Program.pure_eq]
  split
  · exact (startSlowMode_asks case).bind fun _ => .done logs
  · exact .done logs

theorem enact_enters {gate : Gate} {grounds : Grounds} {transcript : Transcript} {logs : List Log}
    (run : Runs (enact deployment case gate grounds) transcript (.ok logs)) :
    List.Forall₂ (Enters case grounds) (gate.actions case) logs := by
  obtain ⟨_, others, _, rfl, acted, run⟩ := runs_bind_ok.mp run
  simp only [Program.pure_eq] at run
  split at run
  · obtain ⟨_, _, _, rfl, _, run⟩ := runs_bind_ok.mp run
    cases run
    exact runActions_enters acted
  · cases run
    exact runActions_enters acted

/-- Every run that returns does what one gate is for, the first that stops its case:
it has the rules evaluated that this gate has consulted and no other, and then
carries out and logs this gate's actions in order. -/
theorem first_gate_decides (deployment : Deployment) (case : Case) (transcript : Transcript)
    (logs : List Log) (returned : Runs (moderate deployment case) transcript (.ok logs)) :
    ∃ gate grounds seen done_, transcript = seen ++ done_ ∧
      Stops deployment case gate grounds seen ∧
      rulesAsked seen = gate.consulted case ∧
      Runs (enact deployment case gate grounds) done_ (.ok logs) ∧
      rulesAsked done_ = [] ∧
      List.Forall₂ (Enters case grounds) (gate.actions case) logs := by
  rw [moderate_eq] at returned
  obtain ⟨seen, ⟨gate, grounds⟩, done_, rfl, judged, acted⟩ := runs_bind_ok.mp returned
  have stops := judge_stops judged
  have acting := (enact_asks deployment case gate grounds).of_runs acted
  exact ⟨gate, grounds, seen, done_, rfl, stops, stops.rulesAsked, acted, rulesAsked_acting acting,
    enact_enters acted⟩

/-- A user on the bypass list is liked in a simulation, with one entry. -/
theorem listed_user_is_liked :
    let deployment : Deployment := ⟨default, ⟨[], .nil⟩, false, 60, 1⟩
    let user : User := ⟨7, "ann", none, none, none, [], 0, 0, false, none, none⟩
    let channel : Channel := { (default : Channel) with bypassed := [⟨7, "ann", none⟩] }
    let case : Case := ⟨channel, user, none, true⟩
    let transcript : Transcript := [⟨.clock, some (default : Moment)⟩, ⟨.newId, "1"⟩]
    let log := entry case ⟨"@ann is in the bypass list.", none⟩ "like" "sim-1" default
    Runs (moderate deployment case) transcript (.ok [log]) ∧
      ∃ gate grounds seen done_, transcript = seen ++ done_ ∧
        Stops deployment case gate grounds seen ∧
        rulesAsked seen = gate.consulted case ∧
        Runs (enact deployment case gate grounds) done_ (.ok [log]) ∧
        rulesAsked done_ = [] ∧
        List.Forall₂ (Enters case grounds) (gate.actions case) [log] := by
  intro deployment user channel case transcript log
  have returned : Runs (moderate deployment case) transcript (.ok [log]) :=
    @Runs.ask Ask Answer _ _ .clock _ _ _ (some default)
      (@Runs.ask Ask Answer _ _ .newId _ _ _ "1" (.done [log]))
  exact ⟨returned, first_gate_decides deployment case transcript [log] returned⟩

end Curation.Moderation
