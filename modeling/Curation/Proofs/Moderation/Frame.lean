import Curation.Proofs.Moderation.Serving

/-! What a run of moderation can reach of the store. Each row that it writes is found by a
key that names the channel and the user of its case, or its cast; all the rest stays what
it was. Whether that is so can be seen from the written row alone, except for the row of
the channel and that of a role's holder: these are made from the tables that were read
just before. -/
namespace Curation

/-- A channel's row but for its bypass list and the time at which the row was changed. -/
def Store.ChannelRow.unlisted (row : ChannelRow) : ChannelRow :=
  { row with bypassed := "", updatedAt := .epoch }

namespace Moderation

open Program (Asks Runs runs_bind runs_recover answered_append)
open Rehearsal (IsHarmless)
open Store (Change ChannelRow CooldownRow DelegateRow DownvoteRow RoleRow Session Tables)

/-! ## What belongs to a case -/

namespace Case

section Own

variable (case : Case)

/-- What is kept about the user of a case in its channel. -/
def owns (channel fid : String) : Bool := channel == case.channel.id && fid == toString case.user.fid

/-- The user holds a role of the channel. -/
def ownsRole (roles : List RoleRow) (row : DelegateRow) : Bool :=
  case.owns row.channelId row.fid &&
    roles.any fun role => role.id == row.roleId && role.channelId == case.channel.id

/-- What a channel's row shows outside of a case. -/
def besides (row : ChannelRow) : ChannelRow :=
  if row.id = Text.lower case.channel.id then row.unlisted else row

def ownsVote (row : DownvoteRow) : Bool := case.cast.any fun cast => row.castHash == cast.hash

/-- The tables without what belongs to a case: the bypass list of its channel, what is kept
about its user in its channel, and the votes on its cast. -/
def outside (tables : Tables) : Tables where
  channels := tables.channels.map case.besides
  roles := tables.roles
  delegates := tables.delegates.filter fun row => !case.ownsRole tables.roles row
  logs := tables.logs.filter fun log => !case.owns log.channelId log.fid
  cooldowns := tables.cooldowns.filter fun row => !case.owns row.channelId row.fid
  downvotes := tables.downvotes.filter fun row => !case.ownsVote row
  casts := tables.casts

/-- A change that reaches only what belongs to a case. -/
def MayMake (tables : Tables) : Change → Prop
  | .channel row => ∃ old, tables.channelRow? case.channel.id = some old ∧ row.unlisted = old.unlisted
  | .delegate row => case.ownsRole tables.roles row = true
  | .cooldown row => case.owns row.channelId row.fid = true
  | .downvote row => case.ownsVote row = true
  | .addLog log => case.owns log.channelId log.fid = true
  | .deleteLogs channel fid => case.owns channel fid = true
  | .role _ | .cast _ | .updateLog _ => False

end Own

variable {case : Case} {tables : Tables} {change : Change}

theorem owns_iff {channel fid : String} :
    case.owns channel fid = true ↔ channel = case.channel.id ∧ fid = toString case.user.fid := by
  simp [owns]

/-- Such a change leaves all the rest, row by row and in its order. -/
theorem MayMake.outside (may : case.MayMake tables change) :
    case.outside (change.apply tables) = case.outside tables := by
  cases change with
  | channel row =>
    obtain ⟨old, found, same⟩ := may
    have named : old.id = Text.lower case.channel.id := by simpa using List.find?_some found
    have keyed : row.id = old.id :=
      (congrArg ChannelRow.id same : row.unlisted.id = old.unlisted.id)
    have replaced : tables.channels.find? (ChannelRow.sameKey row) = some old := by
      have wanted : ChannelRow.sameKey row = fun other => other.id == Text.lower case.channel.id := by
        funext other
        rw [ChannelRow.sameKey, keyed, named, BEq.comm]
      rw [wanted]
      exact found
    have shown : case.besides row = case.besides old := by
      rw [besides, besides, keyed, if_pos named, if_pos named, same]
    exact congrArg (fun channels => { case.outside tables with channels }) (Store.map_upsert replaced shown)
  | delegate row =>
    have own : case.ownsRole tables.roles row = true := may
    have same : (Store.upsert DelegateRow.sameKey row tables.delegates).filter
        (fun row => !case.ownsRole tables.roles row) =
          tables.delegates.filter fun row => !case.ownsRole tables.roles row := by
      refine Store.filter_upsert ?_ (fun old keyed => ?_) _
      · rw [own, Bool.not_true]
      · simp only [DelegateRow.sameKey, Bool.and_eq_true, beq_iff_eq] at keyed
        obtain ⟨⟨fid, role⟩, channel⟩ := keyed
        simp only [ownsRole, fid, role, channel] at own
        simp only [ownsRole, own, Bool.not_true]
    exact congrArg (fun delegates => { case.outside tables with delegates }) same
  | cooldown row =>
    have own : case.owns row.channelId row.fid = true := may
    have same : (Store.upsert CooldownRow.sameKey row tables.cooldowns).filter
        (fun row => !case.owns row.channelId row.fid) =
          tables.cooldowns.filter fun row => !case.owns row.channelId row.fid := by
      refine Store.filter_upsert ?_ (fun old keyed => ?_) _
      · rw [own, Bool.not_true]
      · simp only [CooldownRow.sameKey, Bool.and_eq_true, beq_iff_eq] at keyed
        rw [← keyed.1, ← keyed.2, own, Bool.not_true]
    exact congrArg (fun cooldowns => { case.outside tables with cooldowns }) same
  | downvote row =>
    have own : case.ownsVote row = true := may
    have same : (Store.upsert DownvoteRow.sameKey row tables.downvotes).filter
        (fun row => !case.ownsVote row) = tables.downvotes.filter fun row => !case.ownsVote row := by
      refine Store.filter_upsert ?_ (fun old keyed => ?_) _
      · rw [own, Bool.not_true]
      · simp only [DownvoteRow.sameKey, Bool.and_eq_true, beq_iff_eq] at keyed
        rw [ownsVote, keyed.2] at own
        rw [ownsVote, own, Bool.not_true]
    exact congrArg (fun downvotes => { case.outside tables with downvotes }) same
  | addLog log =>
    have same : (tables.logs ++ [log]).filter (fun log => !case.owns log.channelId log.fid) =
        tables.logs.filter fun log => !case.owns log.channelId log.fid := by
      have own : case.owns log.channelId log.fid = true := may
      simp [own]
    exact congrArg (fun logs => { case.outside tables with logs }) same
  | deleteLogs channel fid =>
    obtain ⟨rfl, rfl⟩ := owns_iff.mp may
    have same : (tables.logs.filter fun log => !case.owns log.channelId log.fid).filter
        (fun log => !case.owns log.channelId log.fid) =
          tables.logs.filter fun log => !case.owns log.channelId log.fid := by
      rw [List.filter_filter]
      simp only [Bool.and_self]
    exact congrArg (fun logs => { case.outside tables with logs }) same
  | role | cast | updateLog => exact may.elim

end Case

variable {α β : Type} {case : Case} {tables : Tables} {change : Change} {transcript : Transcript}
  {before after : Session} {rest : Tables}

/-! ## Sessions -/

/-- Outside of a case the session shows these tables, also where it is not committed. -/
structure Frames (case : Case) (rest : Tables) (session : Session) : Prop where
  committed : case.outside session.committed = rest
  working : case.outside session.working = rest

theorem Frames.commit (frames : Frames case rest before) : Frames case rest before.commit :=
  ⟨frames.working, frames.working⟩

theorem Frames.rollback (frames : Frames case rest before) : Frames case rest before.rollback :=
  ⟨frames.committed, frames.committed⟩

theorem Frames.write {written : Except StoreFault Unit} (frames : Frames case rest before)
    (may : case.MayMake before.working change) (wrote : (written, after) = before.write change) :
    Frames case rest after := by
  unfold Session.write at wrote
  split at wrote
  · cases wrote
    exact frames
  · cases wrote
    exact ⟨frames.committed, may.outside.trans frames.working⟩

theorem Frames.checked (frames : Frames case rest before) (checked : case.Checked before after) :
    Frames case rest after := by
  cases checked with
  | untouched => exact frames
  | cleared =>
    have may : case.MayMake before.working (.deleteLogs case.channel.id (toString case.user.fid)) :=
      Case.owns_iff.mpr ⟨rfl, rfl⟩
    exact ⟨frames.committed, may.outside.trans frames.working⟩

/-! ## Programs -/

/-- However a program runs from these tables, what lies outside of a case stays as it is. -/
def SparesFrom (case : Case) (tables : Tables) (program : Moderation α) : Prop :=
  ∀ ⦃transcript : Transcript⦄ ⦃outcome : Except Failure α⦄ ⦃before after : Session⦄ ⦃rest : Tables⦄,
    before.working = tables → Runs program transcript outcome → Served before transcript after →
    Frames case rest before → Frames case rest after

/-- However a program runs, what lies outside of a case stays as it is. -/
def Spares (case : Case) (program : Moderation α) : Prop := ∀ tables, SparesFrom case tables program

/-- What may be asked without a look at the tables. -/
def IsFramed (case : Case) : Ask → Prop
  | .write change => ∀ tables, case.MayMake tables change
  | .evaluate judged _ _ => judged = case
  | _ => True

theorem Spares.of_asks {program : Moderation α} (asks : program.Asks (IsFramed case)) :
    Spares case program := by
  intro tables transcript outcome before after rest _ run served
  refine served.leads (R := fun before after => Frames case rest before → Frames case rest after)
    (fun _ => id) (fun first second => second ∘ first) run asks ?_
  intro ask framed before answer after serves frames
  cases ask with
  | remote | clock | newId | claim | release =>
    obtain rfl : after = before := serves
    exact frames
  | tables =>
    obtain ⟨-, rfl⟩ := serves
    exact frames
  | commit =>
    obtain rfl := serves
    exact frames.commit
  | rollback =>
    obtain rfl := serves
    exact frames.rollback
  | write change => exact frames.write (framed before.working) serves
  | evaluate judged =>
    obtain rfl : judged = case := framed
    exact frames.checked serves

theorem SparesFrom.bind {program : Moderation α} {next : α → Moderation β}
    (first : SparesFrom case tables program) (later : ∀ value, Spares case (next value)) :
    SparesFrom case tables (program.bind next) := by
  intro transcript outcome before after rest same run served frames
  rcases runs_bind.mp run with ⟨_, -, run⟩ | ⟨_, value, _, rfl, ran, run⟩
  · exact first same run served frames
  · obtain ⟨middle, for_first, for_later⟩ := answered_append.mp served
    exact later value _ rfl run for_later (first same ran for_first frames)

theorem Spares.bind {program : Moderation α} {next : α → Moderation β} (first : Spares case program)
    (later : ∀ value, Spares case (next value)) : Spares case (program.bind next) :=
  fun tables => SparesFrom.bind (first tables) later

theorem Spares.recover {program : Moderation α} {next : Failure → Moderation α}
    (first : Spares case program) (later : ∀ failure, Spares case (next failure)) :
    Spares case (program.recover next) := by
  intro tables transcript outcome before after rest same run served frames
  rcases runs_recover.mp run with ⟨_, -, run⟩ | ⟨_, failure, _, rfl, ran, run⟩
  · exact first tables same run served frames
  · obtain ⟨middle, for_first, for_later⟩ := answered_append.mp served
    exact later failure _ rfl run for_later (first tables same ran for_first frames)

/-- What is read is what the program runs from. -/
theorem Spares.read {next : Tables → Moderation α} (later : ∀ tables, SparesFrom case tables (next tables)) :
    Spares case (Moderation.tables.bind next) := by
  intro tables transcript outcome before after rest _ run served frames
  cases run with
  | ask shown run =>
    cases served with
    | cons serves served =>
      obtain ⟨rfl, rfl⟩ := serves
      exact later _ rfl run served frames

/-- A look at the clock leaves the tables as they are. -/
theorem SparesFrom.now {next : Moment → Moderation α} (later : ∀ time, SparesFrom case tables (next time)) :
    SparesFrom case tables (Moderation.now.bind next) := by
  intro transcript outcome before after rest same run served frames
  rcases runs_bind.mp run with ⟨_, -, run⟩ | ⟨_, time, _, rfl, ran, run⟩
  · rw [now_answered run (served_answered served)]
    exact frames
  · obtain ⟨middle, for_clock, for_later⟩ := answered_append.mp served
    obtain rfl := now_answered ran (served_answered for_clock)
    exact later time same run for_later frames

theorem SparesFrom.write (may : case.MayMake tables change) :
    SparesFrom case tables (Moderation.write change) := by
  intro transcript outcome before after rest same run served frames
  subst same
  rcases write_answered run (served_answered served) with ⟨-, rfl⟩ | ⟨_, -, rfl⟩
  · exact ⟨frames.committed, may.outside.trans frames.working⟩
  · exact frames

/-! ## Actions -/

theorem isFramed_reads (case : Case) : AllowsReading (IsFramed case) := ⟨fun _ => trivial, trivial, trivial⟩

theorem suspend_spares (case : Case) (expiresAt : Option Moment) :
    Spares case (suspend case.channel.id case.user.fid expiresAt) := by
  refine .of_asks (.ask trivial fun tables => ?_)
  exact (now_asks trivial).bind fun time => write_asks fun _ => Case.owns_iff.mpr ⟨rfl, rfl⟩

theorem liftSuspension_spares (case : Case) :
    Spares case (liftSuspension case.channel.id case.user.fid) := by
  refine .of_asks (.ask trivial fun tables => ?_)
  simp only [Program.bind]
  split
  · rename_i lifted
    obtain ⟨row, found, rfl⟩ := Option.map_eq_some_iff.mp lifted
    obtain ⟨fid, channel⟩ := Store.cooldown?_key found
    exact (write_asks fun _ => Case.owns_iff.mpr ⟨channel, fid⟩).bind fun _ => .done true
  · exact .done false

/-- Only the bypass list of a row is written, and when that was. -/
theorem withBypass?_unlisted {row added : ChannelRow} {option : UserOption} {time : Moment}
    (listed : row.withBypass? option time = .ok (some added)) : added.unlisted = row.unlisted := by
  simp only [ChannelRow.withBypass?, bind, Except.bind] at listed
  split at listed
  · cases listed
  · split at listed
    · cases listed
    · cases listed
    · cases listed
      rfl

theorem addToBypass_spares (case : Case) (option : UserOption) :
    Spares case (addToBypass case.channel.id option) := by
  refine Spares.read fun tables => ?_
  cases found : tables.channelRow? case.channel.id with
  | none => exact Spares.of_asks (.done false) tables
  | some row =>
    refine SparesFrom.now fun time => ?_
    cases listed : row.withBypass? option time with
    | error failure => exact Spares.of_asks (.failed failure) tables
    | ok added =>
      cases added with
      | none => exact Spares.of_asks (.done false) tables
      | some added =>
        have may : case.MayMake tables (.channel added) := ⟨row, found, withBypass?_unlisted listed⟩
        have written : SparesFrom case tables
            ((Moderation.write (.channel added)).bind fun _ => .done true) :=
          (SparesFrom.write may).bind fun _ => .of_asks (.done true)
        exact written

theorem grantRole_spares (case : Case) (role : String) :
    Spares case (grantRole case.channel.id role case.user) := by
  refine Spares.read fun tables => ?_
  cases found : tables.role? case.channel.id role with
  | none => exact Spares.of_asks (.failed _) tables
  | some row =>
    refine SparesFrom.write ?_
    have keyed : row.channelId = case.channel.id ∧ row.name = role := by simpa using List.find?_some found
    have among : row ∈ tables.roles := List.mem_of_find?_eq_some found
    have own : case.owns row.channelId (toString case.user.fid) = true :=
      Case.owns_iff.mpr ⟨keyed.1, rfl⟩
    have named : (tables.roles.any fun other =>
        other.id == row.id && other.channelId == case.channel.id) = true :=
      List.any_eq_true.mpr ⟨row, among, by simp [keyed.1]⟩
    exact Bool.and_eq_true_iff.mpr ⟨own, named⟩

theorem voteDown_spares (case : Case) (voter : Voter) : Spares case (voteDown case voter) := by
  unfold voteDown castFor
  cases known : case.cast with
  | none => exact .of_asks (.failed _)
  | some cast =>
    cases (Json.str voter.fid).toWhole with
    | error cause => exact .of_asks (.failed _)
    | ok fid =>
      refine .of_asks (.ask trivial fun tables => (now_asks trivial).bind fun time => write_asks ?_)
      intro _
      have hash : (Store.vote tables time case.channel.id cast.hash fid voter.username
          voter.avatarUrl).castHash = cast.hash := by
        unfold Store.vote
        split
        · rename_i row found
          exact (by simpa using List.find?_some found : _ ∧ row.castHash = cast.hash).2
        · rfl
      simp [Case.MayMake, Case.ownsVote, known, hash]

/-- An action reaches only what belongs to its case. -/
theorem carryOut_spares (deployment : Deployment) (case : Case) (action : Action) :
    Spares case (carryOut deployment case action) := by
  have silent (mild : ∀ change, action.mayWrite change = false) :
      Spares case (carryOut deployment case action) := by
    refine .of_asks (carryOut_asks_only (isFramed_reads case) deployment case action ?_)
    intro change may
    rw [mild change] at may
    cases may
  cases action with
  | bypass | like | hideQuietly | unlike | warnAndHide | unhide => exact silent fun change => by cases change <;> rfl
  | ban =>
    exact (suspend_spares case none).bind fun _ => .of_asks (onNetwork_asks (isFramed_reads case) deployment _)
  | mute => exact suspend_spares case none
  | cooldown hours =>
    refine (Spares.of_asks (now_asks trivial)).bind fun time => ?_
    exact (Spares.of_asks (ofExcept_asks _)).bind fun expiresAt => suspend_spares case _
  | cooldownEnded | unmuted => exact (liftSuspension_spares case).bind fun _ => .of_asks (.done ())
  | addToBypass => exact (addToBypass_spares case _).bind fun _ => .of_asks (.done ())
  | grantRole role => exact grantRole_spares case role
  | downvote voter => exact voteDown_spares case voter

/-! ## Runs -/

theorem logAction_spares (case : Case) (grounds : Grounds) (action : String) :
    Spares case (logAction case grounds action) := by
  unfold logAction
  split
  · exact .of_asks ((now_asks trivial).bind fun time => .ask trivial fun id => .done _)
  · refine .of_asks (.ask trivial fun id => (now_asks trivial).bind fun time => ?_)
    have own : IsFramed case (.write (.addLog (entry case grounds action id time.stored))) :=
      fun _ => Case.owns_iff.mpr ⟨rfl, rfl⟩
    refine Asks.bind (Asks.recover (write_asks own) fun failure => ?_) fun _ => ?_
    · exact .ask trivial fun _ => .failed failure
    · exact .ask trivial fun _ => .done _

theorem perform_spares (deployment : Deployment) (case : Case) (action : Action) :
    Spares case (perform deployment case action) := by
  unfold perform
  split
  · exact .of_asks (.done ())
  · refine (carryOut_spares deployment case action).recover fun failure => ?_
    exact .of_asks (.ask trivial fun _ => .failed failure)

theorem runActions_spares (deployment : Deployment) (case : Case) (grounds : Grounds)
    (actions : List Action) : Spares case (runActions deployment case grounds actions) := by
  induction actions with
  | nil => exact .of_asks (.done [])
  | cons action later ih =>
    refine (perform_spares deployment case action).bind fun _ => ?_
    refine (logAction_spares case grounds action.name).bind fun log => ?_
    exact ih.bind fun logs => .of_asks (.done _)

theorem slowDown_spares (case : Case) (gate : Gate) : Spares case (slowDown case gate) := by
  unfold slowDown
  split
  · rw [startSlowMode_eq]
    refine Spares.bind ?_ fun _ => .of_asks (.ask trivial fun _ => .done ())
    refine (Spares.of_asks (now_asks trivial)).bind fun time => ?_
    exact (Spares.of_asks (ofExcept_asks _)).bind fun expiresAt => suspend_spares case _
  · exact .of_asks (.done ())

theorem judge_spares (deployment : Deployment) (case : Case) : Spares case (judge deployment case) := by
  refine .of_asks ((IsHarmless.judge deployment case).mono fun ask harmless => ?_)
  cases ask with
  | remote | tables | clock | newId => trivial
  | evaluate => exact harmless
  | write | commit | rollback | claim | release => exact harmless.elim

/-- A run of moderation reaches only what belongs to its case, however it ends. -/
theorem moderate_spares (deployment : Deployment) (case : Case) :
    Spares case (moderate deployment case) := by
  rw [moderate_eq]
  refine (judge_spares deployment case).bind fun (gate, grounds) => ?_
  simp only [enact_eq_slowDown]
  refine (runActions_spares deployment case grounds _).bind fun logs => ?_
  exact (slowDown_spares case gate).bind fun _ => .of_asks (.done logs)

end Moderation

end Curation
