import Curation.Proofs.Intake.Rows
import Curation.Proofs.Moderation.Gates

/-! Casts of owners. Where the network names the author of a cast as the owner of its
channel, moderation likes the cast and returns. -/
namespace Curation

namespace Json

/-- An object of one member reads as that member does. -/
theorem readValue_member {fuel : Nat} {text rest tail : List Char} {name : String} {value : Json}
    (named : ∀ opening, readString opening [] text = .ok (name, ':' :: rest))
    (plain : skipBlank rest = rest) (valued : readValue fuel rest = .ok (value, '\x7d' :: tail)) :
    readValue (fuel + 2) ('\x7b' :: '"' :: text) = .ok (.obj [(name, value)], tail) := by
  have pairs : readPairs (fuel + 1) ('"' :: text) = .ok ([(name, value)], tail) := by
    simp only [readPairs, named]
    show bind (m := Except Fault) (readValue fuel (skipBlank rest)) _ = _
    rw [plain, valued]
    rfl
  show bind (m := Except Fault) (readPairs (fuel + 1) ('"' :: text)) _ = _
  rw [pairs]
  rfl

end Json

namespace Intake

open Moderation
open Program (Runs runs_bind answered_append)
open Store (Change)

variable {channel : Channel} {cast : Cast} {text : String}

/-- A call that is answered with a text of JSON returns what it reads there. -/
theorem json_runs (service : Remote.Service) (call : Remote.Call) {value : Json}
    (read : Json.read text = .ok value) :
    ∃ exchanges, Runs (service.json call) exchanges (.ok value) := by
  have answered : ∃ exchanges, Runs (service.request call) exchanges (.ok ⟨200, text⟩) :=
    ⟨[⟨.isHeldBack service.name, false⟩, ⟨.send (service.requestOf call), .answered ⟨200, text⟩⟩,
      ⟨.report service.name true, ()⟩], .ask _ (.ask _ (.ask _ (.done _)))⟩
  obtain ⟨exchanges, answered⟩ := answered
  refine ⟨_, runs_bind.mpr (.inr ⟨_, _, [], rfl, answered, ?_⟩)⟩
  have small : ¬ 400 ≤ (200 : Int) := by decide
  simp only [if_neg small, read]
  exact .done value

/-- What the network answers about a channel that a user leads. -/
def leadAnswer (fid : Int) : Json := .obj [("result", .obj [("channel", .obj [("leadFid", .int fid)])])]

theorem owner_runs (directory : Remote.Directory) (id : String) {fid : Int}
    (read : Json.read text = .ok (leadAnswer fid)) :
    ∃ exchanges, Runs (Remote.Channels.owner directory id) exchanges (.ok fid) := by
  obtain ⟨_, answered⟩ := json_runs directory.channels
    { method := "GET", path := "/v1/channel", query := some [("channelId", id)] } read
  have channel : ∃ exchanges,
      Runs (Remote.Channels.channel directory id) exchanges (.ok (.obj [("leadFid", .int fid)])) :=
    ⟨_, runs_bind.mpr (.inr ⟨_, _, [], rfl, answered, .done _⟩)⟩
  obtain ⟨_, channel⟩ := channel
  exact ⟨_, runs_bind.mpr (.inr ⟨_, _, [], rfl, channel, .done _⟩)⟩

/-- Calls leave a desk as it is. -/
theorem ofFetch_runs {α : Type} {call : Remote.Fetch α} {outcome : Except Failure α}
    {exchanges : Program.Exchanges Remote.Ask Remote.Answer} (run : Runs call exchanges outcome)
    (desk : Desk) : ∃ transcript, Runs (ofFetch call) transcript outcome ∧ desk.Answered transcript desk := by
  induction run with
  | done value => exact ⟨[], .done value, .nil desk⟩
  | failed failure => exact ⟨[], .failed failure, .nil desk⟩
  | @ask question _ _ _ answer _ ih =>
    obtain ⟨transcript, run, answered⟩ := ih
    exact ⟨⟨.remote question, answer⟩ :: transcript, .ask _ run, .cons rfl answered⟩

/-- The entry for a cast that is liked because its author owns the channel. -/
def ownerEntry (channel : Channel) (cast : Cast) (id : String) (time : Moment) : Log :=
  entry ⟨channel, cast.author, some cast, false⟩ ⟨s!"@{cast.author.username} is the channel owner", none⟩
    Action.like.name id time.stored

theorem owner_is_liked (deployment : Deployment) (desk : Desk) (id : String) (time : Moment)
    (read : Json.read text = .ok (leadAnswer cast.author.fid))
    (unlisted : channel.isBypassed cast.author.fid = false) (new : desk.tables.log? id = none) :
    ∃ transcript,
      Runs (moderateCast deployment channel cast false) transcript
        (.ok [ownerEntry channel cast id time]) ∧
      desk.Answered transcript (desk.kept (.addLog (ownerEntry channel cast id time))) := by
  let log := ownerEntry channel cast id time
  obtain ⟨_, owner⟩ := owner_runs deployment.directory channel.id read
  obtain ⟨asked, owner, owner_answered⟩ := ofFetch_runs owner desk
  have exempt : Runs (bypassReason? deployment ⟨channel, cast.author, some cast, false⟩) asked
      (.ok (some s!"@{cast.author.username} is the channel owner")) := by
    simp only [bypassReason?, unlisted, Bool.false_eq_true, if_false]
    refine runs_bind.mpr (.inr ⟨asked, _, [], (List.append_nil _).symm, owner, ?_⟩)
    simp only [if_true]
    exact .done _
  have liked : Runs (runActions deployment ⟨channel, cast.author, some cast, false⟩
      ⟨s!"@{cast.author.username} is the channel owner", none⟩ [.like])
      [⟨.newId, id⟩, ⟨.clock, some time⟩, ⟨.write (.addLog log), .ok ()⟩, ⟨.commit, ()⟩] (.ok [log]) :=
    .ask _ (.ask _ (.ask _ (.ask _ (.done _))))
  have allowed : (Change.addLog log).fault? desk.tables = none := by
    simp [Change.fault?, Change.integers, log, ownerEntry, entry, new]
  have written : desk.Answers (.write (.addLog log)) (.ok ())
      { desk with pending := desk.pending ++ [.addLog log] } := by
    simp only [Desk.Answers, allowed]
    trivial
  refine ⟨_, runs_bind.mpr (.inr ⟨asked, _, _, rfl, exempt, liked⟩),
    answered_append.mpr ⟨desk, owner_answered, ?_⟩⟩
  refine .cons rfl (.cons rfl (.cons written (.cons ?_ (.nil _))))
  simp only [Desk.Answers, Desk.tables_write]
  rfl

/-- The failure of a deployment whose network calls are held back. -/
def heldBack (deployment : Deployment) : Failure := .remote (.heldBack deployment.directory.channels.name)

/-- While calls to the network are held back, no owner is named, and moderation fails. -/
theorem owner_is_unknown (deployment : Deployment) (desk : Desk)
    (unlisted : channel.isBypassed cast.author.fid = false) :
    ∃ transcript,
      Runs (moderateCast deployment channel cast false) transcript (.error (heldBack deployment)) ∧
      desk.Answered transcript desk := by
  have held : Runs (Remote.Channels.owner deployment.directory channel.id)
      [⟨.isHeldBack deployment.directory.channels.name, true⟩] (.error (heldBack deployment)) :=
    .ask _ (.failed _)
  obtain ⟨transcript, unnamed, answered⟩ := ofFetch_runs held desk
  have unknown : Runs (bypassReason? deployment ⟨channel, cast.author, some cast, false⟩) transcript
      (.error (heldBack deployment)) := by
    simp only [bypassReason?, unlisted, Bool.false_eq_true, if_false]
    exact runs_bind.mpr (.inl ⟨_, rfl, unnamed⟩)
  exact ⟨transcript, runs_bind.mpr (.inl ⟨_, rfl, unknown⟩), answered⟩

/-! ## Deliveries -/

variable {deployment : Deployment} {desk : Desk} {event : Event} {channelId : String}

/-- A delivery that the network holds back gives the cast up and frees its claim. -/
theorem held_back_moved (brings : Brings event channelId cast)
    (known : desk.tables.configuration? channelId = .ok (some channel))
    (active : channel.active = true) (undone : ¬ desk.tables.IsDone cast.hash)
    (free : desk.isFree deployment cast = true)
    (unlisted : channel.isBypassed cast.author.fid = false) :
    ∃ failure, Moves deployment (desk, .expected event)
      ((desk.claimed deployment cast).freed cast, .released channel cast failure) := by
  have entered := admitted_moved desk brings known active undone free
  obtain ⟨_, failing, answered⟩ := owner_is_unknown deployment (desk.claimed deployment cast) unlisted
  have failed : Moves deployment (desk, .expected event)
      (desk.claimed deployment cast, .releasing channel cast (heldBack deployment)) :=
    (entered.trans (moderation_moved channel cast desk.now failing answered)).tail .fail
  exact ⟨_, failed.tail (.release rfl)⟩

/-- An owner's cast is moderated, and its row says so. -/
theorem owner_moved (desk : Desk) (id : String) (time : Moment) {text : String}
    (brings : Brings event channelId cast)
    (known : desk.tables.configuration? channelId = .ok (some channel))
    (active : channel.active = true) (new : desk.tables.cast? cast.hash = none)
    (free : desk.isFree deployment cast = true)
    (read : Json.read text = .ok (leadAnswer cast.author.fid))
    (unlisted : channel.isBypassed cast.author.fid = false) (unused : desk.tables.log? id = none)
    (fits : Store.fits cast.author.fid = true) :
    ∃ row : Store.CastRow, row.hash = cast.hash ∧ row.authorFid = cast.author.fid ∧
      row.status = Store.processed ∧
      Moves deployment (desk, .expected event)
        (((desk.claimed deployment cast).kept (.addLog (ownerEntry channel cast id time))).kept (.cast row),
          .processed cast) := by
  let log := ownerEntry channel cast id time
  let data : Json := .obj [("actions", .arr [.str log.action])]
  let logged := (desk.claimed deployment cast).kept (.addLog log)
  let row : Store.CastRow :=
    ⟨cast.hash, channel.id, cast.author.fid, Store.processed, data.spaced, time.stored⟩
  have undone : ¬ desk.tables.IsDone cast.hash := by
    rintro ⟨_, found, -⟩
    rw [new] at found
    cases found
  have entered := admitted_moved desk brings known active undone free
  obtain ⟨_, liked, answered⟩ :=
    owner_is_liked deployment (desk.claimed deployment cast) id time read unlisted unused
  have shape : Store.recordCast logged.tables time cast.hash channel.id cast.author.fid Store.processed
      data = row := by
    have absent : logged.tables.cast? cast.hash = none := new
    rw [Store.recordCast, absent]
  obtain ⟨_, recording, written⟩ := recordCast_runs logged channel cast Store.processed data time shape
    (Store.cast_allowed fits (show Store.fits Store.processed = true by decide) _)
  have moderated := entered.trans (moderation_moved channel cast desk.now liked answered)
  exact ⟨row, rfl, rfl, rfl, moderated.tail (.succeed recording written)⟩

/-! ## A channel and its owner -/

/-- A channel without rules is all that is stored. -/
def bareTables : Store.Tables :=
  { channels := [{ id := "c", userId := "1", createdAt := Moment.epoch, updatedAt := Moment.epoch }] }

/-- A user casts in that channel. -/
def firstCast : Event :=
  ⟨Event.castCreated, [("hash", .str "a"), ("author", .obj [("fid", .int 7)]),
    ("channel", .obj [("id", .str "c")])]⟩

theorem firstCast_brings : ∃ cast channel, Brings firstCast "c" cast ∧ cast.hash = "a" ∧
    cast.author.fid = 7 ∧ bareTables.configuration? "c" = .ok (some channel) ∧
    channel.active = true ∧ channel.isBypassed 7 = false :=
  ⟨_, _, ⟨rfl, rfl, rfl, rfl⟩, rfl, rfl, rfl, rfl, rfl⟩

/-- The network names that user as the owner. -/
def ownerText : String := "\x7b\"result\":\x7b\"channel\":\x7b\"leadFid\":7\x7d\x7d\x7d"

theorem read_ownerText : Json.read ownerText = .ok (leadAnswer 7) := by
  have lead (opening : Nat) : Json.readString opening [] "leadFid\":7\x7d\x7d\x7d".toList =
      .ok ("leadFid", ':' :: "7\x7d\x7d\x7d".toList) := by
    simp [Json.readString]
  have channel (opening : Nat) :
      Json.readString opening [] "channel\":\x7b\"leadFid\":7\x7d\x7d\x7d".toList =
        .ok ("channel", ':' :: "\x7b\"leadFid\":7\x7d\x7d\x7d".toList) := by
    simp [Json.readString]
  have result (opening : Nat) :
      Json.readString opening [] "result\":\x7b\"channel\":\x7b\"leadFid\":7\x7d\x7d\x7d".toList =
        .ok ("result", ':' :: "\x7b\"channel\":\x7b\"leadFid\":7\x7d\x7d\x7d".toList) := by
    simp [Json.readString]
  have seven : Json.readValue 31 "7\x7d\x7d\x7d".toList = .ok (.int 7, '\x7d' :: "\x7d\x7d".toList) := rfl
  -- Each object takes two calls of the reader off the fuel.
  have whole : Json.readValue 37 ownerText.toList = .ok (leadAnswer 7, []) :=
    Json.readValue_member result rfl
      (Json.readValue_member channel rfl (Json.readValue_member lead rfl seven))
  show bind (m := Except Json.Fault) (Json.readValue 37 ownerText.toList) _ = _
  rw [whole]
  rfl

end Intake

end Curation
