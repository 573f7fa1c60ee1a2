import Curation.Proofs.Moderation.Gates
import Curation.Proofs.Moderation.Repeating

/-! Bypass lists under moderation. Whoever is put on the list of a channel stands behind those who
were there, once, and everything else about the channel stays; from then on the rules have nothing
to say about that user. What one action does is told first, then what any number of them do. -/
namespace Curation

/-! ## Lists of users -/

namespace UserOption

variable {listed : List Int} {bypassed options : List UserOption} {option : UserOption}

/-- The list with a user behind the others, or as it is where the user is on it. -/
def listing (bypassed : List UserOption) (option : UserOption) : List UserOption :=
  if option.value ∈ bypassed.map (·.value) then bypassed else bypassed ++ [option]

/-- Those who are not listed, each where they come first. -/
def newcomers (listed : List Int) : List UserOption → List UserOption
  | [] => []
  | option :: rest =>
    if option.value ∈ listed then newcomers listed rest
    else option :: newcomers (listed ++ [option.value]) rest

theorem foldl_listing (bypassed options : List UserOption) :
    options.foldl listing bypassed = bypassed ++ newcomers (bypassed.map (·.value)) options := by
  induction options generalizing bypassed with
  | nil => simp [newcomers]
  | cons option rest ih =>
    rw [List.foldl_cons, ih, newcomers, listing]
    split
    · rfl
    · simp

theorem newcomers_values (listed : List Int) (options : List UserOption) :
    (newcomers listed options).map (·.value) = ((options.map (·.value)).filter (· ∉ listed)).eraseDups := by
  induction options generalizing listed with
  | nil => rfl
  | cons option rest ih =>
    rw [newcomers, List.map_cons]
    by_cases there : option.value ∈ listed
    · rw [if_pos there, ih, List.filter_cons_of_neg (by simpa using there)]
    · rw [if_neg there, List.map_cons, ih, List.filter_cons_of_pos (by simpa using there), List.eraseDups_cons,
        List.filter_filter]
      congr 3
      funext fid
      by_cases same : fid = option.value <;> simp [same]

theorem newcomers_unlisted (member : option ∈ newcomers listed options) : option.value ∉ listed := by
  have value : option.value ∈ (newcomers listed options).map (·.value) := List.mem_map_of_mem member
  rw [newcomers_values, List.mem_eraseDups, List.mem_filter] at value
  simpa using value.2

/-- A newcomer stands on the list as at the first time. -/
theorem newcomers_first (member : option ∈ newcomers listed options) :
    options.find? (·.value == option.value) = some option := by
  induction options generalizing listed with
  | nil => cases member
  | cons first rest ih =>
    rw [newcomers] at member
    split at member
    · rename_i there
      have other : first.value ≠ option.value := fun same => newcomers_unlisted member (same ▸ there)
      rw [List.find?_cons_of_neg (by simpa using other)]
      exact ih member
    · rcases List.mem_cons.mp member with rfl | later
      · exact List.find?_cons_of_pos (by simp)
      · have other : first.value ≠ option.value := fun same => newcomers_unlisted later (by simp [same])
        rw [List.find?_cons_of_neg (by simpa using other)]
        exact ih later

end UserOption

/-- The bypass list has no part in what makes a configuration valid. -/
theorem Channel.Valid.relisted {channel : Channel} (valid : channel.Valid) (bypassed : List UserOption) :
    { channel with bypassed }.Valid :=
  ⟨valid.named, valid.lowered, valid.hours, valid.inclusion, valid.exclusion, valid.includes⟩

namespace Moderation

open Program (Asks Runs runs_bind_ok runs_ofExcept answered_append)
open Store (Change ChannelRow Session Tables)

variable {deployment : Deployment} {channel : Channel} {bypassed : List UserOption} {case : Case}
  {transcript : Transcript} {before after : Session} {tables : Tables} {time : Moment}
  {outcome : Except Failure Unit}

/-! ## One user -/

/-- The row is that of a configuration with these users on the bypass list, whatever its times. -/
def IsRow (channel : Channel) (bypassed : List UserOption) (row : ChannelRow) : Prop :=
  row.untimed = (ChannelRow.ofChannel { channel with bypassed } default).untimed

namespace IsRow

variable {row : ChannelRow} (kept : IsRow channel bypassed row)

include kept

theorem reads (valid : channel.Valid) : row.channel = .ok { channel.finite with bypassed } :=
  (congrArg ChannelRow.channel kept : row.untimed.channel = _).trans
    (ChannelRow.channel_ofChannel (valid.relisted bypassed) default)

theorem withBypass? (option : UserOption) (now : Moment) :
    row.withBypass? option now = .ok (if option.value ∈ bypassed.map (·.value) then none
      else some (row.adding (bypassed.map UserOption.toJson) option now)) := by
  have text : row.bypassed = ChannelRow.bypassText bypassed := congrArg ChannelRow.bypassed kept
  have lists : row.Lists (bypassed.map UserOption.toJson) :=
    ChannelRow.lists_of_spaced (map_proper fun option _ => option.toJson_proper) text
  rw [ChannelRow.withBypass?_of_lists lists, ChannelRow.lists_options]
  by_cases listed : option.value ∈ bypassed.map (·.value)
  · have found : (bypassed.any fun other => other.value == option.value) = true := by simpa using listed
    rw [found, if_pos listed]
  · have none_ : (bypassed.any fun other => other.value == option.value) = false := by simpa using listed
    rw [none_, if_neg listed]

theorem adding (option : UserOption) (now : Moment) :
    IsRow channel (bypassed ++ [option]) (row.adding (bypassed.map UserOption.toJson) option now) := by
  have behind : (row.adding (bypassed.map UserOption.toJson) option now).bypassed =
      ChannelRow.bypassText (bypassed ++ [option]) := by
    simp [ChannelRow.adding, ChannelRow.bypassText]
  calc (row.adding (bypassed.map UserOption.toJson) option now).untimed
      = { row.untimed with bypassed := ChannelRow.bypassText (bypassed ++ [option]) } := by rw [← behind]; rfl
    _ = _ := by rw [kept]; rfl

/-- The integers of a channel that could be stored are no obstacle. -/
theorem allowed (fits : Fits channel) (tables : Tables) : (Change.channel row).fault? tables = none := by
  have integers : (Change.channel row).integers = channel.slowModeHours :: channel.banThreshold.toList :=
    congrArg (fun row => (Change.channel row).integers) kept
  have all : (Change.channel row).integers.all Store.fits = true := integers ▸ fits
  simp [Change.fault?, all]

end IsRow

/-- The channel has the row of its configuration, with these users on the bypass list. -/
def Stores (channel : Channel) (bypassed : List UserOption) (tables : Tables) : Prop :=
  ∃ row, tables.channelRow? channel.id = some row ∧ IsRow channel bypassed row

theorem Stores.of_channels {other : Tables} (stores : Stores channel bypassed tables)
    (same : other.channels = tables.channels) : Stores channel bypassed other := by
  obtain ⟨row, found, kept⟩ := stores
  refine ⟨row, ?_, kept⟩
  rw [Tables.channelRow?, Tables.channel?, same]
  exact found

theorem Stores.written {row : ChannelRow} (kept : IsRow channel bypassed row) (valid : channel.Valid)
    (tables : Tables) : Stores channel bypassed ((Change.channel row).apply tables) :=
  ⟨row, row_written valid tables (congrArg ChannelRow.id kept), kept⟩

/-- A row is found under every spelling of its channel's name. -/
theorem channelRow?_spelled (valid : channel.Valid) {id : String} (spelled : Text.lower id = channel.id)
    (tables : Tables) : tables.channelRow? id = tables.channelRow? channel.id := by
  rw [Tables.channelRow?, Tables.channelRow?, spelled, valid.lowered]

/-- The configuration reads as it was stored, with these users on its bypass list. -/
theorem Stores.configuration (stores : Stores channel bypassed tables) (valid : channel.Valid) {id : String}
    (spelled : Text.lower id = channel.id) :
    tables.configuration? id = .ok (some { channel.finite with bypassed }) := by
  obtain ⟨row, found, kept⟩ := stores
  rw [Tables.configuration?, channelRow?_spelled valid spelled, found]
  simp only [kept.reads valid]
  rfl

/-- Putting a user on the list of a channel that is stored goes well, and extends its list. -/
theorem Stores.addToBypass (stores : Stores channel bypassed before.working) (valid : channel.Valid)
    (fits : Fits channel) (spelled : Text.lower case.channel.id = channel.id)
    (run : Runs (carryOut deployment case .addToBypass) transcript outcome)
    (answered : Answered before transcript after) (shows : ShowsOnly time transcript) :
    outcome = .ok () ∧ Stores channel (UserOption.listing bypassed case.option) after.working := by
  have made : (outcome, after) = before.make (case.change before.working time .addToBypass) :=
    inStore_makes case .addToBypass before time _ _ _ run answered shows
  obtain ⟨row, found, kept⟩ := id stores
  rw [← channelRow?_spelled valid spelled] at found
  simp only [Case.change, found, kept.withBypass?, bind, Except.bind, pure, Except.pure] at made
  unfold UserOption.listing
  by_cases listed : case.option.value ∈ bypassed.map (·.value)
  · rw [if_pos listed] at made ⊢
    obtain ⟨rfl, rfl⟩ := Prod.mk.inj made
    exact ⟨rfl, stores⟩
  · have extended := kept.adding case.option time
    rw [if_neg listed] at made ⊢
    simp only [Option.map_some, Session.make, Session.write, extended.allowed fits] at made
    obtain ⟨rfl, rfl⟩ := Prod.mk.inj made
    exact ⟨rfl, .written extended valid before.working⟩

/-! ## Many users -/

/-- Users are put on bypass lists, one after the other. Meanwhile anything may happen that leaves the
channels alone. -/
inductive Adds : Tables → List Case → Tables → Prop
  | nil {before after : Tables} : after.channels = before.channels → Adds before [] after
  | cons {deployment : Deployment} {time : Moment} {before after : Tables} {start stop : Session} {case : Case}
      {cases : List Case} {transcript : Transcript} {outcome : Except Failure Unit} :
    start.working.channels = before.channels →
    Runs (carryOut deployment case .addToBypass) transcript outcome → Answered start transcript stop →
    ShowsOnly time transcript → Adds stop.working cases after → Adds before (case :: cases) after

theorem Adds.stores {cases : List Case} {after : Tables} (adds : Adds tables cases after) (valid : channel.Valid)
    (fits : Fits channel) (spelled : ∀ case ∈ cases, Text.lower case.channel.id = channel.id)
    (stores : Stores channel bypassed tables) :
    Stores channel ((cases.map Case.option).foldl UserOption.listing bypassed) after := by
  induction adds generalizing bypassed with
  | nil same => exact stores.of_channels same
  | cons same run answered shows _ ih =>
    obtain ⟨-, extended⟩ :=
      (stores.of_channels same).addToBypass valid fits (spelled _ (.head _)) run answered shows
    exact ih (fun case later => spelled case (.tail _ later)) extended

/-! ## Saving before, and deciding after -/

theorem write_allowed {change : Change} (run : Runs (write change) transcript (.ok ()))
    (answered : Answered before transcript after) : change.fault? before.working = none := by
  cases run with
  | ask written run =>
  cases answered with
  | @cons _ middle _ _ _ _ answers _ =>
  have wrote : (written, middle) = before.write change := answers
  unfold Session.write at wrote
  split at wrote
  · cases wrote
    cases run
  · assumption

/-- The integers of a row that was written fit. -/
theorem writeChannel_fits {row : ChannelRow} (run : Runs (writeChannel channel) transcript (.ok row))
    (answered : Answered before transcript after) : Fits channel := by
  obtain ⟨_, _, _, rfl, read, run⟩ := runs_bind_ok.mp run
  obtain ⟨_, _, _, rfl, dated, run⟩ := runs_bind_ok.mp run
  obtain ⟨_, _, _, rfl, written, -⟩ := runs_bind_ok.mp run
  obtain ⟨_, -, answered⟩ := answered_append.mp answered
  obtain ⟨_, -, answered⟩ := answered_append.mp answered
  obtain ⟨_, for_row, -⟩ := answered_append.mp answered
  have allowed := write_allowed written for_row
  unfold Change.fault? at allowed
  rw [ChannelRow.configured_integers] at allowed
  split at allowed
  · cases allowed
  · rename_i fit
    simpa [Fits] using fit

/-- A configuration that was saved has its row, and no integer that does not fit. -/
theorem saveChannel_stores (valid : channel.Valid) {saved : Channel}
    (run : Runs (saveChannel deployment channel) transcript (.ok saved))
    (answered : Answered (.clean tables) transcript after) :
    saved = channel.finite ∧ Fits channel ∧ Stores channel channel.bypassed after.working := by
  have fits : Fits channel := by
    obtain ⟨_, _, _, rfl, accepted, run⟩ := runs_bind_ok.mp run
    obtain ⟨_, _, _, rfl, wrote, -⟩ := runs_bind_ok.mp run
    obtain ⟨_, -, answered⟩ := answered_append.mp answered
    obtain ⟨_, for_row, -⟩ := answered_append.mp answered
    exact writeChannel_fits wrote for_row
  rcases saveChannel_answered run answered with ⟨_, same, -⟩ | ⟨now, same, rfl⟩
  · cases same
  rw [ChannelRow.channel_configured valid] at same
  cases same
  have kept : IsRow channel channel.bypassed (ChannelRow.configured (tables.channelRow? channel.id) channel now) :=
    ChannelRow.configured_untimed _ channel now
  exact ⟨rfl, fits, .written kept valid tables⟩

/-- A user on the bypass list is liked, and no rule is looked at. -/
theorem moderate_listed (deployment : Deployment) (case : Case)
    (listed : case.channel.isBypassed case.user.fid = true) :
    moderate deployment case =
      runActions deployment case ⟨s!"@{case.user.username} is in the bypass list.", none⟩ [.like] := by
  simp only [moderate, bypassReason?, listed, if_true]
  rfl

theorem isBypassed_iff {fid : Int} : channel.isBypassed fid = true ↔ fid ∈ channel.bypassed.map (·.value) := by
  simp [Channel.isBypassed]

/-! ## The list in the end -/

/-- The configuration with these users behind those on the bypass list. -/
def bypassing (channel : Channel) (added : List UserOption) : Channel :=
  { channel with bypassed := channel.bypassed ++ added }

/-- The configuration of a channel after actions have put the users of some cases on its bypass list. -/
structure Grown (channel : Channel) (cases : List Case) (added : List UserOption) (tables : Tables) : Prop where
  /-- Everybody who was not listed is added once, in the order in which they first came. -/
  once : added.map (·.value) =
    ((cases.map (·.user.fid)).filter (· ∉ channel.bypassed.map (·.value))).eraseDups
  /-- They are listed in the words of the first time. -/
  first : ∀ option ∈ added, (cases.map Case.option).find? (·.value == option.value) = some option
  /-- The text that is stored is that of the list before and those who were added. -/
  text : ∃ row, tables.channelRow? channel.id = some row ∧
    row.bypassed = ChannelRow.bypassText (channel.bypassed ++ added)
  found : ∀ id, Text.lower id = channel.id → tables.configuration? id = .ok (some (bypassing channel added))
  bypassed : ∀ fid, (bypassing channel added).isBypassed fid = true ↔
    fid ∈ channel.bypassed.map (·.value) ∨ fid ∈ cases.map (·.user.fid)

/-- Whoever is put on the bypass list of a channel that was saved is on it from then on, once and behind
those who were there; nothing else about the configuration changes. Such a user is let through
without a look at the rules, and one more can be added at any time. -/
theorem bypass_list_grows_in_order {saved : Channel} {stored : Session} {cases : List Case} {last : Tables}
    (valid : channel.Valid) (run : Runs (saveChannel deployment channel) transcript (.ok saved))
    (answered : Answered (.clean tables) transcript stored) (adds : Adds stored.working cases last)
    (spelled : ∀ case ∈ cases, Text.lower case.channel.id = channel.id) :
    saved = channel.finite ∧ ∃ added, Grown saved cases added last ∧
      (∀ (deployment : Deployment) (user : User) (cast : Option Cast) (simulation : Bool),
        (bypassing saved added).isBypassed user.fid = true →
        let case : Case := ⟨bypassing saved added, user, cast, simulation⟩
        (moderate deployment case).Asks (·.isActing = true) ∧ moderate deployment case =
          runActions deployment case ⟨s!"@{user.username} is in the bypass list.", none⟩ [.like]) ∧
      ∀ (deployment : Deployment) (case : Case) (time : Moment) (start stop : Session) (transcript : Transcript)
        (outcome : Except Failure Unit), start.working.channels = last.channels →
        Text.lower case.channel.id = channel.id → ShowsOnly time transcript →
        Runs (carryOut deployment case .addToBypass) transcript outcome → Answered start transcript stop →
        outcome = .ok () := by
  obtain ⟨rfl, fits, stores⟩ := saveChannel_stores valid run answered
  have grown := adds.stores valid fits spelled stores
  rw [UserOption.foldl_listing] at grown
  let added := UserOption.newcomers (channel.bypassed.map (·.value)) (cases.map Case.option)
  have values : added.map (·.value) =
      ((cases.map (·.user.fid)).filter (· ∉ channel.bypassed.map (·.value))).eraseDups := by
    rw [UserOption.newcomers_values, List.map_map]
    rfl
  refine ⟨rfl, added, ?_, ?_, ?_⟩
  · refine ⟨values, fun option member => UserOption.newcomers_first member, ?_, ?_, fun fid => ?_⟩
    · obtain ⟨row, found, kept⟩ := grown
      exact ⟨row, found, congrArg ChannelRow.bypassed kept⟩
    · exact fun id spelled => grown.configuration valid spelled
    · rw [isBypassed_iff, bypassing, List.map_append, List.mem_append, values, List.mem_eraseDups,
        List.mem_filter]
      by_cases listed : fid ∈ channel.bypassed.map (·.value)
      · simp [Channel.finite, listed]
      · simp [Channel.finite, listed]
  · intro deployment user cast simulation listed case
    have decided := moderate_listed deployment case listed
    exact ⟨decided ▸ runActions_asks deployment case _ _, decided⟩
  · intro deployment case time start stop transcript outcome same spelled shows run answered
    exact ((grown.of_channels same).addToBypass valid fits spelled run answered shows).1

theorem exists_adds (tables : Tables) (cases : List Case) : ∃ last, Adds tables cases last := by
  induction cases generalizing tables with
  | nil => exact ⟨tables, .nil rfl⟩
  | cons case rest ih =>
    let deployment : Deployment := ⟨default, Check.registry, true, 60, 1⟩
    obtain ⟨transcript, outcome, stop, run, answered, shows, -⟩ :=
      exists_run (carryOut deployment case .addToBypass) .epoch (.clean tables)
    obtain ⟨last, adds⟩ := ih stop.working
    exact ⟨last, .cons rfl run answered shows adds⟩

/-- Somebody new is put on the list twice, and in between somebody who is on it. -/
theorem newcomer_is_listed_behind :
    let channel := liking (.str "gm")
    let alice : Case := ⟨channel, { fid := 7, username := "alice" }, none, false⟩
    let bob : Case := ⟨channel, { fid := 5, username := "robert" }, none, false⟩
    let row := ChannelRow.configured none channel .epoch
    channel.Valid ∧ ∃ last, Adds ((Change.channel row).apply {}) [alice, bob, alice] last ∧
      last.configuration? "BASE" =
        .ok (some { channel with bypassed := [⟨5, "bob", none⟩, ⟨7, "alice", none⟩] }) := by
  intro channel alice bob row
  let deployment : Deployment := ⟨default, Check.registry, false, 60, 1⟩
  have valid : channel.Valid := liking_valid trivial
  have accepted : checkRules deployment.registry channel = .ok () := rfl
  obtain ⟨transcript, run, answered⟩ := saveChannel_runs valid rfl accepted {} .epoch
  obtain ⟨last, adds⟩ := exists_adds ((Change.channel row).apply {}) [alice, bob, alice]
  obtain ⟨-, added, grown, -⟩ := bypass_list_grows_in_order valid run answered adds (by decide)
  obtain rfl : added = [⟨7, "alice", none⟩] := by
    have values : added.map (·.value) = [7] := grown.once.trans (by decide)
    obtain ⟨option, rfl, value⟩ := List.map_eq_singleton_iff.mp values
    have first := grown.first option (.head _)
    have same : alice.option = option := by simpa [value, alice, Case.option] using first
    rw [← same]
    rfl
  exact ⟨valid, last, adds, grown.found "BASE" (by decide)⟩

end Moderation

end Curation
