import Curation.Proofs.Channel.RoundTrip
import Curation.Proofs.Intake.Moderating
import Curation.Proofs.Moderation.Frame
import Curation.Proofs.Moderation.Inviting
import Curation.Proofs.Rehearsal.Simulation
import Curation.Proofs.Store.Lookups

/-! Moderation in another guise of its store. In a guise the flag of one channel is set so, and other
rows about casts stand beside it; all the rest is what it is. Moderation does not look at either. So
it asks in a guise what it asks without, comes to the same result, and leaves the guise of what it
would leave. -/
namespace Curation

/-! ## The flag of a channel

It stands in a column of its own, so a row with another flag reads as the same configuration with
that flag, or fails to read in the same way; the bypass list of the row grows as it did. -/

/-- A configuration with its flag set so. -/
def Channel.flagged (active : Bool) (channel : Channel) : Channel := { channel with active }

/-- A name finds the same value whatever stands under another one. -/
theorem Json.Members.get?_beside {name key : String} (other : name ≠ key) (value value' : Json)
    (before after : Members) :
    get? name (before ++ (key, value) :: after) = get? name (before ++ (key, value') :: after) := by
  induction before with
  | nil => simp only [List.nil_append, get?, if_neg (Ne.symm other)]
  | cons first rest ih => simp only [List.cons_append, get?, ih]

namespace Decode

variable {α : Type} {terms : Terms} {members members' : Json.Members} {active active' : Bool}

/-- Members that differ in the flag alone. -/
structure DifferInFlag (members members' : Json.Members) (active active' : Bool) : Prop where
  same : ∀ name, name ≠ "active" → Json.Members.get? name members' = Json.Members.get? name members
  before : Json.Members.get? "active" members = some (.bool active)
  after : Json.Members.get? "active" members' = some (.bool active')

namespace DifferInFlag

private theorem lookup? (differ : DifferInFlag members members' active active') {names : List String}
    (others : "active" ∉ names) : Decode.lookup? members' names = Decode.lookup? members names := by
  induction names with
  | nil => rfl
  | cons name names ih =>
    obtain ⟨other, others⟩ := not_or.mp (mt List.mem_cons.mpr others)
    simp only [Decode.lookup?, differ.same name (Ne.symm other), ih others]

private theorem required (differ : DifferInFlag members members' active active') {names : List String}
    (others : "active" ∉ names) (read : Reader α) :
    Decode.required names read members' = Decode.required names read members := by
  simp only [Decode.required, differ.lookup? others]

private theorem optional (differ : DifferInFlag members members' active active') {names : List String}
    (others : "active" ∉ names) (absent : α) (read : Reader α) :
    Decode.optional names absent read members' = Decode.optional names absent read members := by
  simp only [Decode.optional, differ.lookup? others]

private theorem flag_read (given : Json.Members.get? "active" members = some (.bool active)) :
    Decode.optional ["active"] true flag members = .ok active := by
  simp only [Decode.optional, Decode.lookup?, given]
  rfl

private theorem readFields (differ : DifferInFlag members members' active active') :
    Channel.readFields terms members' = Channel.flagged active' <$> Channel.readFields terms members := by
  unfold Channel.readFields
  rw [flag_read differ.before, flag_read differ.after, differ.required (by decide),
    differ.optional (by decide : "active" ∉ ["userId", "user_id"]),
    differ.optional (by decide : "active" ∉ ["banThreshold", "ban_threshold"]),
    differ.optional (by decide : "active" ∉ ["slowModeHours", "slow_mode_hours"]),
    differ.optional (by decide : "active" ∉ ["excludeUsernames", "exclude_usernames"]),
    differ.optional (by decide : "active" ∉ ["excludeCohosts", "exclude_cohosts"]),
    differ.optional (by decide : "active" ∉ ["inclusionRuleSet", "inclusion_rule_set"]),
    differ.optional (by decide : "active" ∉ ["exclusionRuleSet", "exclusion_rule_set"])]
  -- The flag is the third field; what comes after it is applied alike.
  simp only [Checked.map_seq, Checked.map_map]
  generalize Decode.required ["id"] _ members = id
  generalize Decode.optional ["userId", "user_id"] _ _ members = userId
  cases id with
  | ok | bad =>
    cases userId with
    | ok | bad => rfl

/-- Configurations that differ in the flag alone read alike, but for the flag. -/
theorem read (differ : DifferInFlag members members' active active') :
    Channel.read terms (.obj members') = Channel.flagged active' <$> Channel.read terms (.obj members) := by
  simp only [Channel.read, record, differ.readFields]
  cases Channel.readFields terms members with
  | bad issues => rfl
  | ok channel =>
    have including :
      (channel.flagged active').inclusion.hasConditions = channel.inclusion.hasConditions := rfl
    have excluding :
      (channel.flagged active').exclusion.hasConditions = channel.exclusion.hasConditions := rfl
    show (if _ then _ else _) = _ <$> (if _ then _ else _)
    rw [including, excluding]
    split
    · rfl
    · rfl

end DifferInFlag

end Decode

namespace Store.ChannelRow

open Decode (DifferInFlag)

/-- A row with its flag set so. -/
def flagged (active : Bool) (row : ChannelRow) : ChannelRow := { row with active }

/-- Only one of the members of a row depends on its flag. -/
theorem members_flagged (row : ChannelRow) :
    (∃ failure, ∀ active, (row.flagged active).members = .error failure) ∨
      ∃ later, ∀ active, (row.flagged active).members =
        .ok ([("id", .str row.id), ("userId", .str row.userId)] ++ ("active", .bool active) :: later) := by
  simp only [members, flagged]
  cases stored (some row.bypassed) with
  | error failure => exact .inl ⟨failure, fun active => rfl⟩
  | ok bypassed =>
  cases stored row.inclusion with
  | error failure => exact .inl ⟨failure, fun active => rfl⟩
  | ok inclusion =>
  cases stored row.exclusion with
  | error failure => exact .inl ⟨failure, fun active => rfl⟩
  | ok exclusion => exact .inr ⟨_, fun active => rfl⟩

/-- A row with another flag reads as the same configuration with that flag. -/
theorem channel_flagged (row : ChannelRow) (active : Bool) :
    (row.flagged active).channel = Channel.flagged active <$> row.channel := by
  have own : row.channel = (row.flagged row.active).channel := rfl
  rw [own]
  rcases members_flagged row with ⟨failure, members⟩ | ⟨later, members⟩
  · simp only [channel, members]
    rfl
  · let named : Json.Members := [("id", .str row.id), ("userId", .str row.userId)]
    have differ : DifferInFlag (named ++ ("active", .bool row.active) :: later)
        (named ++ ("active", .bool active) :: later) row.active active :=
      ⟨fun name other => Json.Members.get?_beside other _ _ named later, rfl, rfl⟩
    simp only [channel, members, bind, Except.bind]
    rw [differ.read]
    cases Channel.read .value _ with
    | ok | bad => rfl

/-- The configuration that a row reads as has its flag. -/
theorem channel_active {row : ChannelRow} {channel : Channel} (read : row.channel = .ok channel) :
    channel.active = row.active := by
  have own : row.channel = Channel.flagged row.active <$> row.channel := channel_flagged row row.active
  rw [read] at own
  exact congrArg Channel.active (Except.ok.inj own)

/-- The configuration that a row reads as goes by its id, in lower case. -/
theorem channel_id {row : ChannelRow} {channel : Channel} (read : row.channel = .ok channel) :
    channel.id = Text.lower row.id := by
  rw [ChannelRow.channel] at read
  rcases members_flagged row with ⟨failure, members⟩ | ⟨later, members⟩
  · have unread : row.members = .error failure := members row.active
    rw [unread] at read
    cases read
  · have given : row.members = .ok _ := members row.active
    simp only [given, bind, Except.bind] at read
    split at read
    · rename_i decoded
      cases read
      obtain ⟨name, found, same⟩ := Channel.id_of_read decoded
      cases found
      exact same
    · cases read

/-- A bypass list grows alike whatever the flag. -/
theorem withBypass?_flagged (row : ChannelRow) (active : Bool) (option : UserOption) (now : Moment) :
    (row.flagged active).withBypass? option now =
      Option.map (flagged active) <$> row.withBypass? option now := by
  simp only [withBypass?, flagged, bind, Except.bind]
  cases stored (some row.bypassed) with
  | error failure => rfl
  | ok listed =>
    simp only
    split
    · rfl
    · rfl
    · rfl

end Store.ChannelRow

namespace Intake

open Moderation
open Program (Follows Retelling)
open Store (CastRow Change ChannelRow Session Tables)

/-- How a store is shown otherwise: the flag of a channel, and the rows about casts. -/
structure Guise where
  key : String
  active : Bool
  casts : List CastRow

namespace Guise

variable (guise : Guise)

/-! ## What is shown -/

def row (row : ChannelRow) : ChannelRow := if row.id = guise.key then row.flagged guise.active else row

def tables (tables : Tables) : Tables :=
  { tables with channels := tables.channels.map guise.row, casts := guise.casts }

def session (session : Session) : Session := ⟨guise.tables session.committed, guise.tables session.working⟩

def change : Change → Change
  | .channel row => .channel (guise.row row)
  | change => change

/-- A case of the channel whose flag is shown. -/
def case (case : Case) : Case := { case with channel := case.channel.flagged guise.active }

/-- What is asked about the store in a guise, and what is answered. -/
def retelling : Retelling Answer where
  question
    | .evaluate case rule strategy => .evaluate (guise.case case) rule strategy
    | .write change => .write (guise.change change)
    | ask => ask
  answer
    | .tables, tables => guise.tables tables
    | .remote _, answer | .evaluate .., answer | .write _, answer | .commit, answer | .rollback, answer
    | .clock, answer | .newId, answer | .claim .., answer | .release _, answer => answer

/-! ## The store -/

theorem row_id (row : ChannelRow) : (guise.row row).id = row.id := by
  unfold Guise.row
  split
  · rfl
  · rfl

theorem row_own {row : ChannelRow} (own : row.id = guise.key) : guise.row row = row.flagged guise.active :=
  if_pos own

variable {guise}

theorem channel?_tables (tables : Tables) (id : String) :
    (guise.tables tables).channel? id = (tables.channel? id).map guise.row := by
  simp only [Guise.tables, Tables.channel?, List.find?_map, Function.comp_def, guise.row_id]

/-- The channel whose flag is shown is configured as before, but for the flag. -/
theorem configuration?_tables {id : String} (own : Text.lower id = guise.key) (tables : Tables) :
    (guise.tables tables).configuration? id =
      Option.map (Channel.flagged guise.active) <$> tables.configuration? id := by
  simp only [Tables.configuration?, Tables.channelRow?, channel?_tables]
  cases found : tables.channel? (Text.lower id) with
  | none => rfl
  | some row =>
    have shown := guise.row_own ((Store.channel?_key found).trans own)
    simp only [Option.map_some, shown, Store.ChannelRow.channel_flagged]
    cases row.channel with
    | ok | error => rfl

theorem withBypass?_row (row : ChannelRow) (option : UserOption) (now : Moment) :
    (guise.row row).withBypass? option now = Option.map guise.row <$> row.withBypass? option now := by
  have kept {added : ChannelRow} (listed : row.withBypass? option now = .ok (some added)) :
      added.id = row.id := by
    have unlisted := withBypass?_unlisted listed
    exact (congrArg ChannelRow.id unlisted : added.unlisted.id = row.unlisted.id)
  by_cases own : row.id = guise.key
  · rw [guise.row_own own, Store.ChannelRow.withBypass?_flagged]
    cases listed : row.withBypass? option now with
    | error failure => rfl
    | ok added? =>
      cases added? with
      | none => rfl
      | some added =>
        have shown := guise.row_own ((kept listed).trans own)
        simp only [Functor.map, Except.map, Option.map_some, shown]
  · have other : guise.row row = row := if_neg own
    rw [other]
    cases listed : row.withBypass? option now with
    | error failure => rfl
    | ok added? =>
      cases added? with
      | none => rfl
      | some added =>
        have shown : guise.row added = added := if_neg fun same => own ((kept listed).symm.trans same)
        simp only [Functor.map, Except.map, Option.map_some, shown]

theorem fault?_tables (change : Change) (tables : Tables) :
    (guise.change change).fault? (guise.tables tables) = change.fault? tables := by
  cases change with
  | channel row =>
    have integers : (Change.channel (guise.row row)).integers = (Change.channel row).integers := by
      unfold Guise.row
      split
      · rfl
      · rfl
    simp only [Guise.change, Change.fault?, integers]
  | role | delegate | cooldown | downvote | cast | addLog | updateLog | deleteLogs => rfl

theorem apply_tables {change : Change} (spares : change.sparesCasts = true) (tables : Tables) :
    (guise.change change).apply (guise.tables tables) = guise.tables (change.apply tables) := by
  cases change with
  | channel row =>
    have keyed (row old : ChannelRow) :
        ChannelRow.sameKey (guise.row row) (guise.row old) = ChannelRow.sameKey row old := by
      simp only [ChannelRow.sameKey, guise.row_id]
    have written := Store.upsert_shown keyed row tables.channels
    exact congrArg (fun channels => { guise.tables tables with channels }) written.symm
  | cast => cases spares
  | role | delegate | cooldown | downvote | addLog | updateLog | deleteLogs => rfl

/-- What is recorded about casts does not show. -/
theorem tables_cast (row : CastRow) (tables : Tables) :
    guise.tables ((Change.cast row).apply tables) = guise.tables tables := rfl

theorem session_write {change : Change} (spares : change.sparesCasts = true) {before after : Session}
    {written : Except StoreFault Unit} (wrote : (written, after) = before.write change) :
    (written, guise.session after) = (guise.session before).write (guise.change change) := by
  have fault : (guise.change change).fault? (guise.session before).working = change.fault? before.working :=
    fault?_tables change before.working
  unfold Session.write at wrote ⊢
  rw [fault]
  split at wrote
  · cases wrote
    rfl
  · cases wrote
    have applied : (guise.change change).apply (guise.session before).working =
        guise.tables (change.apply before.working) := apply_tables spares before.working
    rw [applied]
    rfl

theorem checked_session {case : Case} {before after : Session} (checked : case.Checked before after) :
    (guise.case case).Checked (guise.session before) (guise.session after) := by
  cases checked with
  | untouched => exact .untouched
  | cleared real => exact .cleared real

/-- What may be answered in a session, may be answered in its guise. -/
theorem serves_session {ask : Ask} (moderating : IsModerating ask) {before : Session} {answer : Answer ask}
    {after : Session} (serves : Serves before ask answer after) :
    Serves (guise.session before) (guise.retelling.question ask) (guise.retelling.answer ask answer)
      (guise.session after) := by
  cases ask with
  | remote | clock | newId | claim | release =>
    obtain rfl : after = before := serves
    exact rfl
  | tables =>
    obtain ⟨rfl, rfl⟩ := serves
    exact ⟨rfl, rfl⟩
  | commit | rollback =>
    obtain rfl := serves
    exact rfl
  | evaluate => exact checked_session serves
  | write change => exact session_write moderating serves

/-! ## Programs -/

section Programs

variable {α : Type} {deployment : Deployment} {grounds : Grounds}

theorem ofFetch_follows (call : Remote.Fetch α) : Follows guise.retelling (ofFetch call) (ofFetch call) := by
  unfold ofFetch
  induction call with
  | done value => exact .done value
  | failed failure => exact .failed failure
  | ask question next ih => exact .ask fun answer => ih answer

/-- The tables are read as they are shown. -/
theorem read_follows {next next' : Tables → Moderation α}
    (later : ∀ tables, Follows guise.retelling (next tables) (next' (guise.tables tables))) :
    Follows guise.retelling (Moderation.tables.bind next) (Moderation.tables.bind next') :=
  .ask later

theorem now_follows : Follows guise.retelling now now := by
  refine .ask fun time => ?_
  cases time with
  | some moment => exact .done moment
  | none => exact .failed _

theorem write_follows (change : Change) :
    Follows guise.retelling (write change) (write (guise.change change)) := by
  refine .ask fun written => ?_
  cases written with
  | ok => exact .done ()
  | error fault => exact .failed _

theorem evaluate_follows (case : Case) (rule : Rule) (strategy : OrStrategy) :
    Follows guise.retelling (evaluate case rule strategy) (evaluate (guise.case case) rule strategy) :=
  .ask fun decided => .ofExcept decided

theorem onNetwork_follows (call : Remote.Fetch Unit) :
    Follows guise.retelling (onNetwork deployment call) (onNetwork deployment call) :=
  .ite (ofFetch_follows call) (.done ())

theorem suspend_follows (channel : String) (fid : Int) (expiresAt : Option Moment) :
    Follows guise.retelling (suspend channel fid expiresAt) (suspend channel fid expiresAt) :=
  read_follows fun _ => now_follows.bind fun _ => write_follows (.cooldown _)

theorem liftSuspension_follows (channel : String) (fid : Int) :
    Follows guise.retelling (liftSuspension channel fid) (liftSuspension channel fid) := by
  refine read_follows fun tables => ?_
  have same : Store.lift? (guise.tables tables) channel fid = Store.lift? tables channel fid := rfl
  simp only [same]
  cases Store.lift? tables channel fid with
  | none => exact .done false
  | some row => exact (write_follows (.cooldown row)).bind fun _ => .done true

theorem addToBypass_follows (channel : String) (option : UserOption) :
    Follows guise.retelling (addToBypass channel option) (addToBypass channel option) := by
  refine read_follows fun tables => ?_
  have shown : (guise.tables tables).channelRow? channel = (tables.channelRow? channel).map guise.row :=
    channel?_tables tables _
  simp only [shown]
  cases tables.channelRow? channel with
  | none => exact .done false
  | some row =>
    refine now_follows.bind fun time => ?_
    simp only [withBypass?_row]
    cases row.withBypass? option time with
    | error failure => exact .failed failure
    | ok added? =>
      cases added? with
      | none => exact .done false
      | some added => exact (write_follows (.channel added)).bind fun _ => .done true

theorem grantRole_follows (channel role : String) (user : User) :
    Follows guise.retelling (grantRole channel role user) (grantRole channel role user) := by
  refine read_follows fun tables => ?_
  have same : (guise.tables tables).role? channel role = tables.role? channel role := rfl
  simp only [same]
  cases tables.role? channel role with
  | none => exact .failed _
  | some row => exact write_follows (.delegate _)

theorem voteDown_follows (case : Case) (voter : Voter) :
    Follows guise.retelling (voteDown case voter) (voteDown case voter) := by
  unfold voteDown castFor
  cases case.cast with
  | none => exact .failed _
  | some cast =>
    refine Follows.bind (.done cast) fun cast => ?_
    cases (Json.str voter.fid).toWhole with
    | error cause => exact .failed _
    | ok fid => exact read_follows fun _ => now_follows.bind fun _ => write_follows (.downvote _)

theorem carryOut_follows (case : Case) (action : Action) :
    Follows guise.retelling (carryOut deployment case action) (carryOut deployment case action) := by
  cases action with
  | bypass => exact .done ()
  | like =>
    unfold carryOut
    cases case.cast with
    | some cast => exact .done ()
    | none => exact onNetwork_follows _
  | hideQuietly | unlike | warnAndHide =>
    unfold carryOut
    cases case.cast with
    | some cast => exact onNetwork_follows _
    | none => exact .done ()
  | unhide =>
    unfold carryOut castFor
    cases case.cast with
    | some cast => exact onNetwork_follows _
    | none => exact .failed _
  | ban => exact (suspend_follows _ _ none).bind fun _ => onNetwork_follows _
  | mute => exact suspend_follows _ _ none
  | cooldown hours =>
    exact now_follows.bind fun time => (Follows.ofExcept _).bind fun expiresAt => suspend_follows _ _ _
  | cooldownEnded | unmuted => exact (liftSuspension_follows _ _).bind fun _ => .done ()
  | addToBypass => exact (addToBypass_follows _ _).bind fun _ => .done ()
  | grantRole role => exact grantRole_follows _ role _
  | downvote voter => exact voteDown_follows case voter

theorem perform_follows (case : Case) (action : Action) :
    Follows guise.retelling (perform deployment case action) (perform deployment case action) := by
  refine .ite (.done ()) ((carryOut_follows case action).recover fun failure => ?_)
  exact .ask fun _ => .failed failure

theorem logAction_follows (case : Case) (action : String) :
    Follows guise.retelling (logAction case grounds action) (logAction case grounds action) := by
  refine .ite ?_ ?_
  · exact now_follows.bind fun time => .ask fun id => .done _
  · refine .ask fun id => now_follows.bind fun time => ?_
    refine Follows.bind ((write_follows (.addLog _)).recover fun failure => ?_) fun _ => ?_
    · exact .ask fun _ => .failed failure
    · exact .ask fun _ => .done _

theorem runActions_follows (case : Case) (actions : List Action) :
    Follows guise.retelling (runActions deployment case grounds actions)
      (runActions deployment case grounds actions) := by
  induction actions with
  | nil => exact .done []
  | cons action rest ih =>
    refine (perform_follows case action).bind fun _ => ?_
    refine (logAction_follows case action.name).bind fun log => ?_
    exact ih.bind fun logs => .done (log :: logs)

theorem bypassReason?_follows (case : Case) :
    Follows guise.retelling (bypassReason? deployment case) (bypassReason? deployment (guise.case case)) := by
  refine .ite (.done _) ((ofFetch_follows _).bind fun owner => .ite (.done _) (.ite ?_ (.done none)))
  exact read_follows fun tables => .ite (.done _) (.done none)

theorem keptAwayReason?_follows (case : Case) :
    Follows guise.retelling (keptAwayReason? case) (keptAwayReason? (guise.case case)) :=
  .ite (.done none) (read_follows fun _ => now_follows.bind fun _ => .done _)

/-- The actions for a case in the guise are those without. -/
private theorem acting_follows (case : Case) (actions : List Action) :
    Follows guise.retelling (runActions deployment case grounds actions)
      (runActions deployment (guise.case case) grounds actions) := by
  have same : runActions deployment (guise.case case) grounds actions =
      runActions deployment case grounds actions :=
    runActions_amid (case.channel.flagged guise.active) grounds actions
  rw [same]
  exact runActions_follows case actions

theorem include_follows (case : Case) :
    Follows guise.retelling (include_ deployment case) (include_ deployment (guise.case case)) := by
  refine (evaluate_follows case _ _).bind fun included => ?_
  refine .ite (acting_follows case _) ((acting_follows case _).bind fun logs => .ite ?_ (.done logs))
  refine Follows.bind (now_follows.bind fun time => (Follows.ofExcept _).bind fun expiresAt => ?_)
    fun _ => .done logs
  exact (suspend_follows _ _ _).bind fun _ => .ask fun _ => .done ()

theorem applyRules_follows (case : Case) :
    Follows guise.retelling (applyRules deployment case) (applyRules deployment (guise.case case)) := by
  refine .ite ((evaluate_follows case _ _).bind fun excluded => ?_) (include_follows case)
  exact .ite (acting_follows case _) (include_follows case)

/-- A case in the guise is decided as without. -/
theorem moderate_follows (case : Case) :
    Follows guise.retelling (moderate deployment case) (moderate deployment (guise.case case)) := by
  refine (bypassReason?_follows case).bind fun bypass? => ?_
  cases bypass? with
  | some reason => exact acting_follows case _
  | none =>
    refine (keptAwayReason?_follows case).bind fun keptAway? => ?_
    cases keptAway? with
    | some reason => exact acting_follows case _
    | none => exact .ite (applyRules_follows case) (acting_follows case _)

theorem decideJoin_follows (channel : Channel) (fid : Int) :
    Follows guise.retelling (decideJoin deployment channel fid)
      (decideJoin deployment (channel.flagged guise.active) fid) := by
  refine (ofFetch_follows _).bind fun found => ?_
  cases found with
  | none => exact .done _
  | some user =>
    exact (moderate_follows ⟨channel, user, none, false⟩).bind fun logs => .done (joinAnswer logs)

/-- A request to join the channel whose flag is shown goes in the guise as without. -/
theorem join_follows {spelling : String} (own : Text.lower spelling = guise.key) (fid : Int) :
    Follows guise.retelling (join deployment spelling fid) (join deployment spelling fid) := by
  rw [join_eq]
  refine read_follows fun tables => ?_
  rw [configuration?_tables own]
  cases tables.configuration? spelling with
  | error failure => exact .failed failure
  | ok found =>
    cases found with
    | none => exact .failed _
    | some channel => exact (decideJoin_follows channel fid).recover fun _ => .done _

end Programs

/-! ## Guises of guises -/

/-- Of two guises of a channel the later one shows. -/
theorem tables_tables {other : Guise} (same : other.key = guise.key) (tables : Tables) :
    other.tables (guise.tables tables) = other.tables tables := by
  have shown : other.row ∘ guise.row = other.row := by
    funext row
    simp only [Function.comp_apply, Guise.row, same]
    split
    · rename_i own
      simp [ChannelRow.flagged, own]
    · rfl
  simp only [Guise.tables, List.map_map, shown]

end Guise

end Intake

end Curation
