import Curation.Check.Content
import Curation.Check.Profile
import Curation.Proofs.Text.Sigma

/-! Checks that search a text. Each comes in two variants, one in which case counts and one, the
standard, in which it does not. The standard one is meant to find what the other finds, and more.
It does so for every search text except for those with an open sigma, of which there is always a
match that it misses. -/
namespace Curation.Check

open Content (containsText)
open Profile (bioContains displayNameContains)
open Text (OpenSigma)

variable {entry : Entry} {subject : User → Option Cast → Option String} {part : String}

/-- The check comes to its verdict without asking anything, and triggers. -/
def Triggers (entry : Entry) (ctx : Context) : Prop := ∃ message, entry.run ctx = .done ⟨true, message⟩

/-- The arguments ask for a text, with or without regard to case. -/
structure Context.Seeks (ctx : Context) (part : String) (sensitive : Bool) : Prop where
  text : ctx.argText "searchText" = part
  sensitive : ctx.isSet "caseSensitive" = sensitive

/-- Whatever the check triggers for when case counts, it triggers for when it does not. -/
def KeepsMatches (entry : Entry) (part : String) : Prop :=
  ∀ (ctx : Context) (exact standard : Json.Members), { ctx with args := exact }.Seeks part true →
    { ctx with args := standard }.Seeks part false → Triggers entry { ctx with args := exact } →
    Triggers entry { ctx with args := standard }

/-- A check searches a text of the user or of the cast, which may be missing. -/
structure Searches (entry : Entry) (subject : User → Option Cast → Option String) : Prop where
  triggers_iff : ∀ ctx, Triggers entry ctx ↔ ∃ text, subject ctx.user ctx.cast = some text ∧
    Text.contains text (ctx.argText "searchText") (ctx.isSet "caseSensitive") = true
  any : ∀ text, text ≠ "" → ∃ user cast, subject user cast = some text

theorem triggers_verdict {ctx : Context} {found : Bool} {yes no : String}
    (run_eq : entry.run ctx = .done (verdict found yes no)) : Triggers entry ctx ↔ found = true := by
  unfold Triggers verdict at *
  rw [run_eq]
  cases found <;> simp

theorem containsText_searches : Searches containsText fun _ cast => cast.map (·.text) where
  triggers_iff ctx := by
    cases there : ctx.cast with
    | none =>
      have silent : containsText.run ctx = .done ⟨false, "No cast to check"⟩ := by
        simp only [containsText, Content.onCast, there]
        rfl
      simp [Triggers, silent]
    | some cast =>
      let part := ctx.argText "searchText"
      have run_eq : containsText.run ctx = .done (verdict
          (Text.contains cast.text part (ctx.isSet "caseSensitive"))
          s!"Cast contains \"{part}\"" s!"Cast does not contain \"{part}\"") := by
        simp only [containsText, Content.onCast, there]
        rfl
      exact (triggers_verdict run_eq).trans (by simp [part])
  any text _ := ⟨default, some { hash := "", author := default, text }, rfl⟩

theorem bioContains_searches : Searches bioContains fun user _ => some (user.bio.getD "") where
  triggers_iff ctx := (triggers_verdict rfl).trans (by simp)
  any text _ := ⟨{ (default : User) with bio := some text }, none, rfl⟩

theorem displayNameContains_searches :
    Searches displayNameContains fun user _ => user.displayName.filter (!·.isEmpty) where
  triggers_iff ctx := by
    by_cases blank : (ctx.user.displayName.getD "").isEmpty = true
    · have silent : displayNameContains.run ctx = .done ⟨false, "User has no display name"⟩ := by
        simp only [displayNameContains, blank, if_true]
        rfl
      have missing : ctx.user.displayName.filter (!·.isEmpty) = none := by
        cases shown : ctx.user.displayName with
        | none => rfl
        | some name => simpa [shown, Option.filter] using blank
      simp [Triggers, silent, missing]
    · have there : ctx.user.displayName.filter (!·.isEmpty) = some (ctx.user.displayName.getD "") := by
        cases shown : ctx.user.displayName with
        | none => simp [shown] at blank
        | some name => simpa [shown, Option.filter] using blank
      let part := ctx.argText "searchText"
      have run_eq : displayNameContains.run ctx = .done (verdict
          (Text.contains (ctx.user.displayName.getD "") part (ctx.isSet "caseSensitive"))
          s!"Display name contains \"{part}\"" s!"Display name does not contain \"{part}\"") := by
        simp only [displayNameContains, blank]
        rfl
      exact (triggers_verdict run_eq).trans (by simp [there, part])
  any text full := ⟨{ (default : User) with displayName := some text }, none, by simp [Option.filter, full]⟩

/-! ## The two variants -/

variable {ctx : Context}

theorem Searches.triggers_exact (searches : Searches entry subject) (seeks : ctx.Seeks part true) :
    Triggers entry ctx ↔
      ∃ text, subject ctx.user ctx.cast = some text ∧ Text.occursIn part.toList text.toList = true := by
  rw [searches.triggers_iff, seeks.text, seeks.sensitive]
  rfl

theorem Searches.triggers_standard (searches : Searches entry subject) (seeks : ctx.Seeks part false) :
    Triggers entry ctx ↔ ∃ text, subject ctx.user ctx.cast = some text ∧
      Text.occursIn (Text.lowerFrom [] part.toList) (Text.lowerFrom [] text.toList) = true := by
  rw [searches.triggers_iff, seeks.text, seeks.sensitive]
  simp only [Text.contains, Bool.false_eq_true, if_false, Text.lower, String.toList_ofList]

/-- The standard variant keeps the matches of a search text exactly if none of its sigmas is open. -/
theorem Searches.keepsMatches_iff (searches : Searches entry subject) :
    KeepsMatches entry part ↔ ¬ OpenSigma part.toList := by
  constructor
  · intro keeps
    refine Text.lower_keeps_iff.mp fun chars full found => ?_
    obtain ⟨user, cast, there⟩ := searches.any (String.ofList chars) (by simpa using full)
    let ctx : Context := ⟨default, user, cast, [], default, false, false⟩
    have exactly : { ctx with args := [("searchText", .str part), ("caseSensitive", .bool true)] }.Seeks part true :=
      ⟨rfl, rfl⟩
    have standard : { ctx with args := [("searchText", .str part)] }.Seeks part false := ⟨rfl, rfl⟩
    have matched := (searches.triggers_exact exactly).mpr ⟨_, there, by rwa [String.toList_ofList]⟩
    obtain ⟨text, same, kept⟩ := (searches.triggers_standard standard).mp (keeps ctx _ _ exactly standard matched)
    obtain rfl : String.ofList chars = text := Option.some.inj (there.symm.trans same)
    rwa [String.toList_ofList] at kept
  · intro closed ctx exactArgs standardArgs exactly standard triggers
    obtain ⟨text, there, found⟩ := (searches.triggers_exact exactly).mp triggers
    exact (searches.triggers_standard standard).mpr ⟨text, there, Text.occursIn_lower closed found⟩

/-- Ignoring case keeps the matches of a search text in all three checks exactly if none of its sigmas is
open, so of every search text without a capital sigma. Of the others, every check misses some match. -/
theorem ignoring_case_misses_open_sigmas :
    ∀ entry ∈ [containsText, bioContains, displayNameContains], ∀ part : String,
      (KeepsMatches entry part ↔ ¬ OpenSigma part.toList) ∧ ('Σ' ∉ part.toList → KeepsMatches entry part) := by
  intro entry listed part
  have exactly : KeepsMatches entry part ↔ ¬ OpenSigma part.toList := by
    simp only [List.mem_cons, List.not_mem_nil, or_false] at listed
    rcases listed with rfl | rfl | rfl
    · exact containsText_searches.keepsMatches_iff
    · exact bioContains_searches.keepsMatches_iff
    · exact displayNameContains_searches.keepsMatches_iff
  exact ⟨exactly, fun plain => exactly.mpr fun opened => plain opened.mem⟩

/-- A sigma by itself is open. -/
theorem lone_sigma_is_missed : containsText ∈ [containsText, bioContains, displayNameContains] ∧
    OpenSigma "Σ".toList ∧ ¬ KeepsMatches containsText "Σ" := by
  have listed : containsText ∈ [containsText, bioContains, displayNameContains] := .head _
  have itself : "Σ".toList = [] ++ 'Σ' :: [] := rfl
  have opened : OpenSigma "Σ".toList := .front itself rfl rfl
  exact ⟨listed, opened, fun keeps => (ignoring_case_misses_open_sigmas _ listed "Σ").1.mp keeps opened⟩

end Curation.Check
