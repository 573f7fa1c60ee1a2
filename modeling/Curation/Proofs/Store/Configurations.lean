import Curation.Check.Catalogue
import Curation.Moderation.Dashboard
import Curation.Proofs.Channel.RoundTrip
import Curation.Proofs.Moderation.Answering
import Curation.Proofs.Store.Lookups
import Curation.Store.Configuration

/-! Configurations kept by the store. The row of a valid configuration reads as it, with null
for the numbers in its rules that are not finite, so what was saved is what is found, and
saving it again writes the same texts. -/
namespace Curation

namespace Store

namespace ChannelRow

variable {channel : Channel}

/-- A row but for its times. -/
def untimed (row : ChannelRow) : ChannelRow := { row with createdAt := default, updatedAt := default }

/-- The columns that hold JSON text. -/
def texts (row : ChannelRow) : Option String × Option String × String :=
  (row.inclusion, row.exclusion, row.bypassed)

/-- Whatever row it takes the place of, a configuration is written in the same columns. -/
theorem configured_untimed (old : Option ChannelRow) (channel : Channel) (now : Moment) :
    (configured old channel now).untimed = (ofChannel channel now).untimed := by
  cases old with
  | none => rfl
  | some old =>
    simp only [configured, replacing]
    split
    · rename_i kept
      exact (congrArg untimed kept).symm
    · rfl

theorem configured_id (old : Option ChannelRow) (channel : Channel) (now : Moment) :
    (configured old channel now).id = channel.id :=
  congrArg ChannelRow.id (configured_untimed old channel now)

theorem configured_texts (old : Option ChannelRow) (channel : Channel) (now : Moment) :
    (configured old channel now).texts =
      (some channel.inclusion.toJson.spaced, some channel.exclusion.toJson.spaced, bypassText channel.bypassed) :=
  congrArg texts (configured_untimed old channel now)

theorem configured_integers (old : Option ChannelRow) (channel : Channel) (now : Moment) :
    (Change.channel (configured old channel now)).integers =
      channel.slowModeHours :: channel.banThreshold.toList :=
  congrArg (fun row => (Change.channel row).integers) (configured_untimed old channel now)

/-! ## Reading a row -/

theorem stored_written {value : Json} (proper : value.Proper) : stored (some value.spaced) = .ok value := by
  have read : Json.read value.spaced = .ok value := proper.read Json.Layout.standard_spaced
  unfold stored
  split
  · rename_i absent
    cases absent
  · rename_i blank
    rw [Option.some.inj blank] at read
    cases read
  · rename_i text _ given
    rw [← Option.some.inj given, read]

theorem stored_bypassText (options : List UserOption) :
    stored (some (bypassText options)) = .ok (.arr (options.map UserOption.toJson)) :=
  stored_written (map_proper fun option _ => option.toJson_proper)

/-- A list that does not count as set is empty anyway. -/
theorem arr_orElse (items : List Json) : (Json.arr items).orElse (.arr []) = .arr items := by
  cases items with
  | nil | cons => rfl

theorem channel_ofChannel (valid : channel.Valid) (now : Moment) :
    (ofChannel channel now).channel = .ok channel.finite := by
  have spared : stored (some (ofChannel channel now).bypassed) =
      .ok (.arr (channel.bypassed.map UserOption.toJson)) :=
    stored_bypassText channel.bypassed
  have including : stored (ofChannel channel now).inclusion = .ok channel.inclusion.toJson :=
    stored_written (RuleSet.toJson_proper valid.inclusion)
  have excluding : stored (ofChannel channel now).exclusion = .ok channel.exclusion.toJson :=
    stored_written (RuleSet.toJson_proper valid.exclusion)
  have members : (ofChannel channel now).members = .ok channel.toJson.ownMembers := by
    rw [ChannelRow.members, spared, including, excluding]
    simp only [bind, Except.bind, arr_orElse]
    rfl
  have read : Channel.read .value (.obj channel.toJson.ownMembers) = .ok channel.finite :=
    Channel.read_toJson valid
  rw [ChannelRow.channel, members]
  simp only [bind, Except.bind, read]
  rfl

theorem channel_configured (valid : channel.Valid) (old : Option ChannelRow) (now : Moment) :
    (configured old channel now).channel = .ok channel.finite := by
  -- A row's times do not matter to what it reads as.
  have same : (configured old channel now).untimed.channel = (ofChannel channel now).untimed.channel :=
    congrArg ChannelRow.channel (configured_untimed old channel now)
  exact same.trans (channel_ofChannel valid now)

end ChannelRow

end Store

namespace Moderation

open Program (Runs runs_bind runs_done runs_ofExcept runs_question answered_append)
open Store (Change ChannelRow Session Tables)

variable {deployment : Deployment} {channel : Channel} {transcript : Transcript} {before : Tables}
  {after : Session}

theorem now_failed {failure : Failure} (run : Runs now transcript (.error failure)) :
    failure = .dateOutOfRange := by
  cases run with
  | ask time run =>
  cases time with
  | none =>
    cases run
    rfl
  | some moment => cases run

/-- A row is refused only for an integer that no column holds. -/
theorem writeRow_refused {row : ChannelRow} {before after : Session} {failure : Failure}
    (run : Runs (write (.channel row)) transcript (.error failure)) (answered : Answered before transcript after) :
    after = before ∧ (Change.channel row).integers.all Store.fits = false := by
  cases run with
  | ask written run =>
  cases answered with
  | @cons _ middle _ _ _ _ wrote rest =>
  have wrote : (written, middle) = before.write (.channel row) := wrote
  simp only [Session.write, Change.fault?] at wrote
  split at wrote
  · rename_i refused
    cases wrote
    cases run
    cases rest
    split at refused
    · rename_i wide
      exact ⟨rfl, by simpa using wide⟩
    · cases refused
  · cases wrote
    cases run

/-- The integers of a configuration fit into the columns that hold them. -/
def Fits (channel : Channel) : Prop := (channel.slowModeHours :: channel.banThreshold.toList).all Store.fits = true

/-- A row is written for a configuration, or nothing is. -/
theorem writeChannel_answered {outcome : Except Failure ChannelRow} {before after : Session}
    (run : Runs (writeChannel channel) transcript outcome) (answered : Answered before transcript after) :
    (∃ failure, outcome = .error failure ∧ after = before ∧ (Fits channel → failure = .dateOutOfRange)) ∨
      ∃ now, let row := ChannelRow.configured (before.working.channelRow? channel.id) channel now
        outcome = .ok row ∧ after = { before with working := (Change.channel row).apply before.working } := by
  rcases runs_bind.mp run with ⟨_, -, unread⟩ | ⟨_, tables, _, rfl, read, dating⟩
  · cases (runs_question.mp unread).choose_spec.1
  obtain ⟨_, for_tables, after_tables⟩ := answered_append.mp answered
  obtain ⟨same, rfl⟩ := tables_answered read for_tables
  cases same
  rcases runs_bind.mp dating with ⟨failure, rfl, unread⟩ | ⟨_, now, _, rfl, read, writing⟩
  · exact .inl ⟨failure, rfl, now_answered unread after_tables, fun _ => now_failed unread⟩
  obtain ⟨_, for_time, after_time⟩ := answered_append.mp after_tables
  obtain rfl := now_answered read for_time
  rcases runs_bind.mp writing with ⟨failure, rfl, refused⟩ | ⟨_, _, _, rfl, written, done⟩
  · obtain ⟨rfl, wide⟩ := writeRow_refused refused after_time
    refine .inl ⟨failure, rfl, rfl, fun fits => ?_⟩
    rw [ChannelRow.configured_integers, show List.all _ _ = true from fits] at wide
    cases wide
  obtain ⟨_, for_row, after_row⟩ := answered_append.mp after_time
  rcases write_answered written for_row with ⟨-, rfl⟩ | ⟨_, same, -⟩
  · obtain ⟨rfl, rfl⟩ := runs_done.mp done
    cases after_row
    exact .inr ⟨now, rfl, rfl⟩
  · cases same

/-- A configuration is written whole and committed, or a failure leaves everything as it
was. -/
theorem saveChannel_answered {outcome : Except Failure Channel}
    (run : Runs (saveChannel deployment channel) transcript outcome)
    (answered : Answered (.clean before) transcript after) :
    (∃ failure, outcome = .error failure ∧ after = .clean before ∧
        (Fits channel → checkRules deployment.registry channel = .error failure ∨ failure = .dateOutOfRange)) ∨
      ∃ now, let row := ChannelRow.configured (before.channelRow? channel.id) channel now
        outcome = row.channel ∧ after = .clean ((Change.channel row).apply before) := by
  rcases runs_bind.mp run with ⟨failure, rfl, refused⟩ | ⟨_, _, _, rfl, accepted, saving⟩
  · obtain ⟨same, rfl⟩ := runs_ofExcept.mp refused
    cases answered
    exact .inl ⟨failure, rfl, rfl, fun _ => .inl same.symm⟩
  obtain ⟨-, rfl⟩ := runs_ofExcept.mp accepted
  rw [List.nil_append] at answered
  rcases runs_bind.mp saving with ⟨failure, rfl, unwritten⟩ | ⟨_, row, _, rfl, wrote, committing⟩
  · obtain ⟨_, same, rfl, why⟩ | ⟨_, same, -⟩ := writeChannel_answered unwritten answered
    · cases same
      exact .inl ⟨failure, rfl, rfl, fun fits => .inr (why fits)⟩
    · cases same
  obtain ⟨_, for_row, after_row⟩ := answered_append.mp answered
  obtain ⟨_, same, -⟩ | ⟨now, same, rfl⟩ := writeChannel_answered wrote for_row
  · cases same
  cases same
  cases committing with
  | ask _ reading =>
  obtain ⟨rfl, rfl⟩ := runs_ofExcept.mp reading
  cases after_row with
  | cons committed rest =>
  cases rest
  exact .inr ⟨now, rfl, committed⟩

/-- What is left of the tables once a configuration is saved. -/
structure Saved (channel : Channel) (before after : Tables) : Prop where
  found : ∀ id, Text.lower id = channel.id → after.configuration? id = .ok (some channel.finite)
  others : after.channels.filter (·.id ≠ channel.id) = before.channels.filter (·.id ≠ channel.id)
  apart : { after with channels := before.channels } = before

theorem saved_written (valid : channel.Valid) (before : Tables) (now : Moment) :
    Saved channel before
      ((Change.channel (ChannelRow.configured (before.channelRow? channel.id) channel now)).apply before) where
  found id spelled := by
    rw [Tables.configuration?, Tables.channelRow?, Store.channel?_written, ChannelRow.configured_id,
      if_pos spelled.symm]
    simp only [ChannelRow.channel_configured valid]
    rfl
  others := by
    refine Store.filter_upsert ?_ (fun old same => ?_) before.channels
    · simp [ChannelRow.configured_id]
    · have same : channel.id = old.id := by simpa [ChannelRow.sameKey, ChannelRow.configured_id] using same
      simp [same]
  apart := rfl

/-- A valid configuration whose rules are accepted and whose integers fit can be saved at any
time. -/
theorem saveChannel_runs (valid : channel.Valid) (fits : Fits channel)
    (accepted : checkRules deployment.registry channel = .ok ()) (before : Tables) (time : Moment) :
    let row := ChannelRow.configured (before.channelRow? channel.id) channel time
    ∃ transcript, Runs (saveChannel deployment channel) transcript (.ok channel.finite) ∧
      Answered (.clean before) transcript (.clean ((Change.channel row).apply before)) := by
  intro row
  have allowed : (Change.channel row).fault? before = none := by
    show (if !(Change.channel row).integers.all Store.fits then some StoreFault.tooLarge else none) = none
    rw [ChannelRow.configured_integers, show List.all _ _ = true from fits]
    rfl
  have read : row.channel = .ok channel.finite := ChannelRow.channel_configured valid _ time
  have wrote : ((.ok (), ⟨before, (Change.channel row).apply before⟩) : Except StoreFault Unit × Session) =
      (Session.clean before).write (.channel row) := by
    simp [Session.write, Session.clean, allowed]
  refine ⟨[⟨.tables, before⟩, ⟨.clock, some time⟩, ⟨.write (.channel row), .ok ()⟩, ⟨.commit, ()⟩], ?_, ?_⟩
  · refine runs_bind.mpr (.inr ⟨[], (), _, rfl, runs_ofExcept.mpr ⟨accepted.symm, rfl⟩, ?_⟩)
    have ended : Runs (.ofExcept row.channel : Moderation Channel) [] (.ok channel.finite) :=
      runs_ofExcept.mpr ⟨read.symm, rfl⟩
    refine @Runs.ask Ask Answer _ _ Ask.tables _ _ _ before ?_
    refine @Runs.ask Ask Answer _ _ Ask.clock _ _ _ (some time) ?_
    refine @Runs.ask Ask Answer _ _ (Ask.write (.channel row)) _ _ _ (.ok ()) ?_
    exact @Runs.ask Ask Answer _ _ Ask.commit _ _ _ () ended
  · exact .cons ⟨rfl, rfl⟩ (.cons rfl (.cons wrote (.cons rfl (.nil _))))

theorem texts_kept (valid : channel.Valid) (old old' : Option ChannelRow) (time time' : Moment) :
    (ChannelRow.configured old' channel.finite time').texts = (ChannelRow.configured old channel time).texts := by
  rw [ChannelRow.configured_texts, ChannelRow.configured_texts, Channel.finite,
    RuleSet.toJson_finite valid.inclusion, RuleSet.toJson_finite valid.exclusion]

theorem row_written (valid : channel.Valid) (before : Tables) {row : ChannelRow} (own : row.id = channel.id) :
    ((Change.channel row).apply before).channelRow? channel.id = some row := by
  rw [Tables.channelRow?, valid.lowered, Store.channel?_written, if_pos own]

/-- A configuration that is saved is the one that is found, under every spelling of its
name, with null for the numbers in its rules that are not finite; no other row changes,
and saving what was found again writes the same texts. A save that fails has changed
nothing, and it fails for the rules alone as long as the integers fit and the clock can be
read. A configuration is also read from the form in which it is sent. -/
theorem saved_configuration_is_found (valid : channel.Valid) {outcome : Except Failure Channel}
    (run : Runs (saveChannel deployment channel) transcript outcome)
    (answered : Answered (.clean before) transcript after) :
    (∀ failure, outcome = .error failure → after = .clean before ∧
      (Fits channel → checkRules deployment.registry channel = .error failure ∨ failure = .dateOutOfRange)) ∧
    (∀ saved, outcome = .ok saved → saved = channel.finite ∧ ∃ tables, after = .clean tables ∧
      Saved channel before tables ∧
      ∀ (deployment : Deployment) (transcript : Transcript) (between : Tables) (later : Session) (again : Channel),
        Runs (saveChannel deployment saved) transcript (.ok again) → Answered (.clean between) transcript later →
        (later.committed.channelRow? channel.id).map ChannelRow.texts =
          (tables.channelRow? channel.id).map ChannelRow.texts) ∧
    (∀ terms, Channel.read terms channel.toJson = .ok channel.finite) ∧
    (channel.inclusion.rule.Over Number.IsFinite → channel.exclusion.rule.Over Number.IsFinite →
      channel.finite = channel) := by
  refine ⟨?_, ?_, fun terms => Channel.read_toJson valid, Channel.finite_eq⟩
  · rintro failure rfl
    rcases saveChannel_answered run answered with ⟨_, same, rfl, why⟩ | ⟨_, same, -⟩
    · cases same
      exact ⟨rfl, why⟩
    · rw [ChannelRow.channel_configured valid] at same
      cases same
  · rintro saved rfl
    rcases saveChannel_answered run answered with ⟨_, same, -⟩ | ⟨time, same, rfl⟩
    · cases same
    rw [ChannelRow.channel_configured valid] at same
    cases same
    refine ⟨rfl, _, rfl, saved_written valid before time, ?_⟩
    intro deployment transcript between later again rerun reanswered
    rcases saveChannel_answered rerun reanswered with ⟨_, same, -⟩ | ⟨time', -, rfl⟩
    · cases same
    · rw [row_written valid before (ChannelRow.configured_id ..), Session.clean,
        row_written valid between (ChannelRow.configured_id _ channel.finite _), Option.map_some, Option.map_some,
        texts_kept valid]

/-- A configuration as it is sent: casts with some text are liked, and the user is
suspended for a while. -/
def liking (text : Json) : Channel where
  id := "base"
  userId := "7"
  active := true
  banThreshold := some 3
  slowModeHours := 2
  bypassed := [⟨5, "bob", none⟩]
  excludeCohosts := false
  inclusion := ⟨none, .root, true, .condition ⟨"containsText", [("searchText", text)]⟩, [.like, .cooldown .zero]⟩
  exclusion := .empty .hideQuietly

theorem liking_valid {text : Json} (proper : text.Proper) : (liking text).Valid := by
  have zero : Action.Valid (.cooldown .zero) := by
    refine ⟨⟨?_, ?_, ?_, .inr rfl⟩, ?_⟩ <;> decide
  have full : "containsText" ≠ "" := by decide
  exact {
    named := (by decide : "base" ≠ "")
    lowered := (by decide : Text.lower "base" = "base")
    hours := (by decide : (0 : Int) ≤ 2)
    inclusion := {
      rule := ⟨full, List.nodup_singleton _, proper, trivial⟩
      actions := List.cons_ne_nil _ _
      each := by simp [liking, zero, show Action.Valid .like from trivial] }
    exclusion := RuleSet.empty_valid trivial
    includes := fun _ => rfl }

/-- A configuration is found as it was saved, whatever the case of its name. -/
theorem saved_text_is_found :
    let channel := liking (.str "gm")
    let deployment : Deployment := ⟨default, Check.registry, false, 60, 1⟩
    channel.Valid ∧ ∃ transcript after, Runs (saveChannel deployment channel) transcript (.ok channel) ∧
      Answered (.clean {}) transcript after ∧ after.committed.configuration? "BASE" = .ok (some channel) := by
  intro channel deployment
  have valid : channel.Valid := liking_valid trivial
  have accepted : checkRules deployment.registry channel = .ok () := rfl
  obtain ⟨transcript, run, answered⟩ := saveChannel_runs valid rfl accepted {} .epoch
  obtain ⟨-, found, -⟩ := saved_configuration_is_found valid run answered
  have same : channel.finite = channel := rfl
  obtain ⟨-, tables, left, keeps, -⟩ := found _ rfl
  rw [same] at run
  refine ⟨valid, transcript, _, run, answered, ?_⟩
  rw [left]
  exact keeps.found "BASE" (by decide)

/-- A number that is not finite is accepted and comes back as null. -/
theorem infinite_argument_is_lost :
    let channel := liking (.number (.real (.infinity false)))
    let deployment : Deployment := ⟨default, Check.registry, false, 60, 1⟩
    channel.Valid ∧ Fits channel ∧ ∃ transcript after saved,
      Runs (saveChannel deployment channel) transcript (.ok saved) ∧
      Answered (.clean {}) transcript after ∧ after.committed.configuration? "base" = .ok (some saved) ∧
      saved = liking .null ∧ saved ≠ channel := by
  intro channel deployment
  have valid : channel.Valid := liking_valid trivial
  have accepted : checkRules deployment.registry channel = .ok () := rfl
  obtain ⟨transcript, run, answered⟩ := saveChannel_runs valid rfl accepted {} .epoch
  have lost : channel.finite = liking .null := rfl
  rw [lost] at run
  refine ⟨valid, rfl, transcript, _, _, run, answered, ?_, rfl, fun same => ?_⟩
  · exact (saved_written valid {} .epoch).found "base" (by decide)
  · have rules : (liking .null).inclusion.rule = channel.inclusion.rule := congrArg (·.inclusion.rule) same
    simp [channel, liking] at rules

end Moderation

end Curation
