import Curation.Proofs.Check.Amounts
import Curation.Proofs.Check.Embeds

/-! The kinds of embeds and what is found of each. A link counts as a plain one if nothing else
explains it, which could make the plain links depend on the kinds that are asked for. They do not:
what a cast displays is the same whatever is ticked, and ticks only choose from it. Main statement:
any ticks trigger exactly if one of them does alone, and the message lists those. -/
namespace Curation.Check.Content

open Program (ok_of_toOption)

variable {σ : Type} {answer : (ask : Ask) → σ → Answer ask × σ} {state : σ} {ctx : Context}
  {cast resolved : Cast} {domain : String}

/-! ## What a cast displays -/

/-- A link is known for something else than a plain link. -/
inductive Explains (domain : String) (cast resolved : Cast) (url : String) : Prop
  | image : url ∈ linksOf cast → inDomain domain url = true → Link.isImage? url = some true →
    Explains domain cast resolved url
  | video : url ∈ linksOf cast → inDomain domain url = true → Link.isVideo url = true →
    Explains domain cast resolved url
  | frame : url ∈ resolved.frames → inDomain domain url = true → Explains domain cast resolved url
  | quote {embed : Embed} {quoted : QuotedCast} : embed ∈ cast.embeds → embed.quoted = some quoted →
    quoted.hash = url → Explains domain cast resolved url

/-- The kinds of embeds that a cast shows by itself or once it is resolved. -/
inductive Displays (domain : String) (cast resolved : Cast) : String → Prop
  | itself {kind : String} : Shows domain cast kind → Displays domain cast resolved kind
  | frame {url : String} : url ∈ resolved.frames → inDomain domain url = true →
    Displays domain cast resolved "frame"
  | link {url : String} : url ∈ linksOf resolved → inDomain domain url = true →
    ¬ Explains domain cast resolved url → Displays domain cast resolved "link"

theorem mem_add_sources {findings : Findings} {added source : String} {sources : List String} :
    source ∈ (findings.add added sources).sources ↔ source ∈ findings.sources ∨ source ∈ sources := by
  cases sources with
  | nil => simp [Findings.add]
  | cons first rest => simp [Findings.add]

/-- What is found in a cast by itself are the sources that explain links. -/
theorem findingsOf_sources {findings : Findings} (found : findingsOf domain cast = .ok findings) (source : String) :
    source ∈ findings.sources ↔
      (∃ embed ∈ cast.embeds, ∃ quoted, embed.quoted = some quoted ∧ quoted.hash = source) ∨
      (source ∈ linksOf cast ∧ inDomain domain source = true ∧ Link.isImage? source = some true) ∨
      source ∈ linksOf cast ∧ inDomain domain source = true ∧ Link.isVideo source = true := by
  rcases images_eq domain (linksOf cast) with ⟨-, failed⟩ | ⟨-, shown⟩
  · simp only [findingsOf, failed] at found
    cases found
  · simp only [findingsOf, shown] at found
    cases found
    simp [mem_add_sources, videos, or_assoc]

theorem findingsOf_kinds {findings : Findings} (found : findingsOf domain cast = .ok findings) (kind : String) :
    kind ∈ findings.kinds ↔ Shows domain cast kind := by
  rcases findingsOf_eq domain cast with ⟨-, failed⟩ | ⟨-, others, same, shown⟩
  · cases failed.symm.trans found
  · obtain rfl : others = findings := Except.ok.inj (same.symm.trans found)
    exact shown kind

/-- What is found once the cast is resolved are the kinds that it displays. -/
theorem resolved_kinds {findings : Findings} (found : findingsOf domain cast = .ok findings) (kind : String) :
    kind ∈ (findings.resolved domain resolved).kinds ↔ Displays domain cast resolved kind := by
  have explained (url : String) :
      url ∈ (findings.add "frame" (resolved.frames.filter (inDomain domain))).sources ↔
        Explains domain cast resolved url := by
    rw [mem_add_sources, findingsOf_sources found, List.mem_filter]
    constructor
    · rintro ((⟨embed, member, quoted, quotes, same⟩ | ⟨member, looked, image⟩ | ⟨member, looked, video⟩) |
        ⟨member, looked⟩)
      · exact .quote member quotes same
      · exact .image member looked image
      · exact .video member looked video
      · exact .frame member looked
    · rintro (⟨member, looked, image⟩ | ⟨member, looked, video⟩ | ⟨member, looked⟩ | ⟨member, quotes, same⟩)
      · exact .inl (.inr (.inl ⟨member, looked, image⟩))
      · exact .inl (.inr (.inr ⟨member, looked, video⟩))
      · exact .inr ⟨member, looked⟩
      · exact .inl (.inl ⟨_, member, _, quotes, same⟩)
  have unexplained (url : String) : (inDomain domain url && !(findings.add "frame"
      (resolved.frames.filter (inDomain domain))).sources.contains url) = true ↔
        inDomain domain url = true ∧ ¬ Explains domain cast resolved url := by
    rw [← explained]
    simp
  simp only [Findings.resolved, mem_add, findingsOf_kinds found, List.mem_filter, unexplained]
  constructor
  · rintro ((shows | ⟨rfl, url, member, looked⟩) | ⟨rfl, url, member, looked, plain⟩)
    · exact .itself shows
    · exact .frame member looked
    · exact .link member looked plain
  · rintro (shows | ⟨member, looked⟩ | ⟨member, looked, plain⟩)
    · exact .inl (.inl shows)
    · exact .inl (.inr ⟨rfl, _, member, looked⟩)
    · exact .inr ⟨rfl, _, member, looked, plain⟩

/-- Frames and plain links do not show before the cast is resolved. -/
theorem displays_itself {kind : String} (displays : Displays domain cast resolved kind) (frame : kind ≠ "frame")
    (link : kind ≠ "link") : Shows domain cast kind := by
  cases displays with
  | itself shows => exact shows
  | frame => exact absurd rfl frame
  | link => exact absurd rfl link

/-- Where every link can be taken apart, no domain gets the check stuck. -/
theorem not_isStuck {urls : List String} (parseable : ∀ url ∈ urls, ¬ Link.Malformed url) :
    ¬ IsStuck domain urls := by
  rintro ⟨url, member, -, malformed⟩
  exact parseable url member malformed

/-! ## The check -/

/-- The check needs the resolved cast. -/
def Resolves (ctx : Context) : Prop := ctx.isSet "links" = true ∨ ctx.isSet "frames" = true

/-- The kinds that are ticked, in the order of messages. -/
def wanted (ctx : Context) : List String := (embedKinds.filter fun kind => ctx.isSet kind.2).map (·.1)

/-- The cast as it comes resolved. -/
def Fetches (answer : (ask : Ask) → σ → Answer ask × σ) (state : σ) (ctx : Context) (cast resolved : Cast) : Prop :=
  ((ofFetch (Remote.Accounts.cast ctx.directory cast.hash)).run answer state).1 = .ok resolved

private theorem run_eq_bind (given : ctx.cast = some cast) : containsEmbeds.run ctx =
    (Program.ofExcept (findingsOf (domainOf ctx) cast)).bind fun findings =>
      if ctx.isSet "links" || ctx.isSet "frames" then
        (ofFetch (Remote.Accounts.cast ctx.directory cast.hash)).bind fun resolved =>
          .done (embedVerdict (wanted ctx) (domainOf ctx) (findings.resolved (domainOf ctx) resolved))
      else .done (embedVerdict (wanted ctx) (domainOf ctx) findings) := by
  simp only [containsEmbeds, onCast, given]
  rfl

/-- A kind that is ticked without the cast being resolved shows by itself. -/
theorem wanted_itself {kind : String} (unresolved : ¬ Resolves ctx) (ticked : kind ∈ wanted ctx) :
    kind ≠ "frame" ∧ kind ≠ "link" := by
  obtain ⟨pair, member, rfl⟩ := List.mem_map.mp ticked
  obtain ⟨member, isSet⟩ := List.mem_filter.mp member
  simp only [embedKinds, List.mem_cons, List.not_mem_nil, or_false] at member
  rcases member with rfl | rfl | rfl | rfl | rfl
  · decide
  · decide
  · exact absurd (.inr isSet) unresolved
  · exact absurd (.inl isSet) unresolved
  · decide

/-- The check reports what it wants of what the cast displays. -/
theorem embeds_run (given : ctx.cast = some cast) (free : ¬ IsStuck (domainOf ctx) (linksOf cast))
    (fetches : Resolves ctx → Fetches answer state ctx cast resolved) :
    ∃ findings : Findings, ((containsEmbeds.run ctx).run answer state).1 =
        .ok (embedVerdict (wanted ctx) (domainOf ctx) findings) ∧
      ∀ kind ∈ wanted ctx, kind ∈ findings.kinds ↔ Displays (domainOf ctx) cast resolved kind := by
  rcases findingsOf_eq (domainOf ctx) cast with ⟨stuck, -⟩ | ⟨-, findings, found, shown⟩
  · exact absurd stuck free
  rw [run_eq_bind given, found]
  by_cases resolves : Resolves ctx
  · refine ⟨findings.resolved (domainOf ctx) resolved, ?_, fun kind _ => resolved_kinds found kind⟩
    have asked : (ctx.isSet "links" || ctx.isSet "frames") = true := by simpa [Resolves] using resolves
    simp only [Program.ofExcept, Program.bind, asked, if_true]
    exact Program.run_bind_eq_ok.mpr ⟨resolved, fetches resolves, rfl⟩
  · have unasked : (ctx.isSet "links" || ctx.isSet "frames") = false := by simpa [Resolves] using resolves
    refine ⟨findings, ?_, fun kind ticked => ?_⟩
    · simp only [Program.ofExcept, Program.bind, unasked, Bool.false_eq_true, if_false]
      rfl
    · obtain ⟨frame, link⟩ := wanted_itself resolves ticked
      exact (shown kind).trans ⟨.itself, fun displays => displays_itself displays frame link⟩

/-- A check that comes to its end had a cast that it could take apart and, if it needed it, resolved. -/
theorem ends_of_passes (passes : Passes answer state containsEmbeds ctx) : ∃ cast resolved,
    ctx.cast = some cast ∧ ¬ IsStuck (domainOf ctx) (linksOf cast) ∧
      (Resolves ctx → Fetches answer state ctx cast resolved) := by
  obtain ⟨message, run⟩ := passes
  cases given : ctx.cast with
  | none =>
    have silent : containsEmbeds.run ctx = .done ⟨false, "No cast to check"⟩ := by
      simp only [containsEmbeds, onCast, given]
      rfl
    rw [silent] at run
    cases run
  | some cast =>
    rw [run_eq_bind given] at run
    rcases findingsOf_eq (domainOf ctx) cast with ⟨-, failed⟩ | ⟨free, findings, found, -⟩
    · rw [failed] at run
      cases run
    · by_cases resolves : Resolves ctx
      · have asked : (ctx.isSet "links" || ctx.isSet "frames") = true := by simpa [Resolves] using resolves
        simp only [found, Program.ofExcept, Program.bind, asked, if_true] at run
        obtain ⟨resolved, fetches, -⟩ := Program.run_bind_eq_ok.mp run
        exact ⟨cast, resolved, rfl, free, fun _ => fetches⟩
      · exact ⟨cast, cast, rfl, free, fun needed => absurd needed resolves⟩

/-- The check triggers exactly if it comes to its end and the cast displays a kind that is ticked. -/
theorem passes_embeds_iff :
    Passes answer state containsEmbeds ctx ↔ ∃ cast resolved, ctx.cast = some cast ∧
      ¬ IsStuck (domainOf ctx) (linksOf cast) ∧ (Resolves ctx → Fetches answer state ctx cast resolved) ∧
      ∃ kind ∈ wanted ctx, Displays (domainOf ctx) cast resolved kind := by
  constructor
  · intro passes
    obtain ⟨cast, resolved, given, free, fetches⟩ := ends_of_passes passes
    obtain ⟨findings, run, found⟩ := embeds_run given free fetches
    obtain ⟨message, triggers⟩ := passes
    have passed : (embedVerdict (wanted ctx) (domainOf ctx) findings).passed = true :=
      congrArg Verdict.passed (Except.ok.inj (run.symm.trans triggers))
    obtain ⟨kind, ticked, there⟩ := embedVerdict_passed.mp passed
    exact ⟨cast, resolved, given, free, fetches, kind, ticked, (found kind ticked).mp there⟩
  · rintro ⟨cast, resolved, given, free, fetches, kind, ticked, displays⟩
    obtain ⟨findings, run, found⟩ := embeds_run given free fetches
    have passed : (embedVerdict (wanted ctx) (domainOf ctx) findings).passed = true :=
      embedVerdict_passed.mpr ⟨kind, ticked, (found kind ticked).mpr displays⟩
    refine ⟨(embedVerdict (wanted ctx) (domainOf ctx) findings).message, ?_⟩
    rw [run, ← passed]

/-! ## Kinds by themselves -/

/-- The same check with one kind ticked alone. -/
def alone (ctx : Context) (kind : String × String) : Context :=
  { ctx with args := [(kind.2, .bool true), ("domain", ctx.arg "domain")] }

theorem domainOf_alone {kind : String × String} (known : kind ∈ embedKinds) :
    domainOf (alone ctx kind) = domainOf ctx := by
  simp only [embedKinds, List.mem_cons, List.not_mem_nil, or_false] at known
  rcases known with rfl | rfl | rfl | rfl | rfl
  all_goals rfl

theorem wanted_alone {kind : String × String} (known : kind ∈ embedKinds) : wanted (alone ctx kind) = [kind.1] := by
  simp only [embedKinds, List.mem_cons, List.not_mem_nil, or_false] at known
  rcases known with rfl | rfl | rfl | rfl | rfl
  all_goals rfl

theorem mem_wanted {kind : String × String} (known : kind ∈ embedKinds) :
    kind.1 ∈ wanted ctx ↔ ctx.isSet kind.2 = true := by
  have apart : ∀ one ∈ embedKinds, ∀ other ∈ embedKinds, one.1 = other.1 → one = other := by decide
  constructor
  · intro ticked
    obtain ⟨other, member, same⟩ := List.mem_map.mp ticked
    obtain ⟨member, isSet⟩ := List.mem_filter.mp member
    rwa [apart other member kind known same] at isSet
  · intro isSet
    exact List.mem_map_of_mem (List.mem_filter.mpr ⟨known, isSet⟩)

/-- A kind by itself triggers exactly if the cast displays it, whatever else is ticked. -/
theorem passes_alone_iff {kind : String × String} (known : kind ∈ embedKinds) (given : ctx.cast = some cast)
    (free : ¬ IsStuck (domainOf ctx) (linksOf cast)) (fetches : Fetches answer state ctx cast resolved) :
    Passes answer state containsEmbeds (alone ctx kind) ↔ Displays (domainOf ctx) cast resolved kind.1 := by
  have given : (alone ctx kind).cast = some cast := given
  have free : ¬ IsStuck (domainOf (alone ctx kind)) (linksOf cast) := by rwa [domainOf_alone known]
  have fetches : Resolves (alone ctx kind) → Fetches answer state (alone ctx kind) cast resolved := fun _ => fetches
  obtain ⟨findings, run, found⟩ := embeds_run given free fetches
  rw [wanted_alone known, domainOf_alone known] at run
  rw [wanted_alone known, domainOf_alone known] at found
  have passed : (embedVerdict [kind.1] (domainOf ctx) findings).passed = true ↔
      Displays (domainOf ctx) cast resolved kind.1 := by
    rw [embedVerdict_passed, ← found kind.1 (List.mem_singleton.mpr rfl)]
    simp
  rw [← passed, Passes, run]
  constructor
  · rintro ⟨message, same⟩
    exact congrArg Verdict.passed (Except.ok.inj same)
  · intro triggers
    exact ⟨_, by rw [← triggers]⟩

theorem embedVerdict_message {kinds : List String} {findings : Findings}
    (passed : (embedVerdict kinds domain findings).passed = true) :
    (embedVerdict kinds domain findings).message =
      "Cast contains " ++ Text.join ", " (kinds.filter findings.kinds.contains) ++
        if domain.isEmpty then "" else s!" from {domain}" := by
  unfold embedVerdict at passed ⊢
  cases nothing : (kinds.filter findings.kinds.contains).isEmpty with
  | true => simp only [nothing, if_true, Bool.false_eq_true] at passed
  | false => simp only [nothing, Bool.false_eq_true, if_false]

/-- Whatever kinds are ticked, the check triggers exactly if it does with one of them ticked alone. The
message then lists those, in the order of the kinds. So ticking more takes no trigger away. -/
theorem embeds_are_told_kind_by_kind (answer : (ask : Ask) → σ → Answer ask × σ) (state : σ) (ctx : Context)
    (cast resolved : Cast) (given : ctx.cast = some cast) (parseable : ∀ url ∈ linksOf cast, ¬ Link.Malformed url)
    (fetches : Fetches answer state ctx cast resolved) :
    ∃ verdict kinds, ((containsEmbeds.run ctx).run answer state).1 = .ok verdict ∧
      (verdict.passed = true ↔ ∃ kind ∈ embedKinds, ctx.isSet kind.2 = true ∧
        Passes answer state containsEmbeds (alone ctx kind)) ∧
      (verdict.passed = true → verdict.message = "Cast contains " ++ Text.join ", " kinds ++
        if (domainOf ctx).isEmpty then "" else s!" from {domainOf ctx}") ∧
      kinds.Sublist (embedKinds.map (·.1)) ∧
      (∀ kind ∈ embedKinds, kind.1 ∈ kinds ↔
        ctx.isSet kind.2 = true ∧ Passes answer state containsEmbeds (alone ctx kind)) ∧
      ∀ args, domainOf { ctx with args } = domainOf ctx →
        (∀ kind ∈ embedKinds, ctx.isSet kind.2 = true → ({ ctx with args } : Context).isSet kind.2 = true) →
        verdict.passed = true → Passes answer state containsEmbeds { ctx with args } := by
  have free : ¬ IsStuck (domainOf ctx) (linksOf cast) := not_isStuck parseable
  obtain ⟨findings, run, found⟩ := embeds_run given free fun _ => fetches
  have listed : ∀ kind ∈ embedKinds, kind.1 ∈ (wanted ctx).filter findings.kinds.contains ↔
      ctx.isSet kind.2 = true ∧ Passes answer state containsEmbeds (alone ctx kind) := by
    intro kind known
    rw [passes_alone_iff known given free fetches, ← mem_wanted known, List.mem_filter]
    refine and_congr_right fun ticked => ?_
    rw [← found kind.1 ticked]
    simp
  have sublist : ((wanted ctx).filter findings.kinds.contains).Sublist (embedKinds.map (·.1)) :=
    List.filter_sublist.trans (List.filter_sublist.map _)
  have passed : (embedVerdict (wanted ctx) (domainOf ctx) findings).passed = true ↔
      ∃ kind ∈ embedKinds, ctx.isSet kind.2 = true ∧ Passes answer state containsEmbeds (alone ctx kind) := by
    rw [embedVerdict_passed]
    constructor
    · rintro ⟨kind, ticked, there⟩
      have listedHere : kind ∈ (wanted ctx).filter findings.kinds.contains :=
        List.mem_filter.mpr ⟨ticked, by simpa using there⟩
      obtain ⟨pair, known, rfl⟩ := List.mem_map.mp (sublist.subset listedHere)
      exact ⟨pair, known, (listed pair known).mp listedHere⟩
    · rintro ⟨kind, known, triggers⟩
      obtain ⟨ticked, there⟩ := List.mem_filter.mp ((listed kind known).mpr triggers)
      exact ⟨kind.1, ticked, by simpa using there⟩
  refine ⟨_, _, run, passed, embedVerdict_message, sublist, listed, fun args same more triggers => ?_⟩
  obtain ⟨kind, known, isSet, triggersAlone⟩ := passed.mp triggers
  have displays := (passes_alone_iff known given free fetches).mp triggersAlone
  exact passes_embeds_iff.mpr ⟨cast, resolved, given, by rwa [same], fun _ => fetches, kind.1,
    (mem_wanted known).mpr (more kind known isSet), by rwa [same]⟩

/-- A network that gives one text for every answer. -/
def telling (text : String) : (ask : Remote.Ask) → Remote.Answer ask
  | .isHeldBack _ => false
  | .send _ => .answered ⟨200, text⟩
  | .report .. => ()

/-- An image that the cast shows by itself does not hide the frame that it comes resolved with. -/
theorem frames_are_told_beside_images :
    let answer := onNetwork (telling ("\x7b\"result\": \x7b\"casts\": [\x7b\"hash\": \"0x1\", " ++
      "\"author\": \x7b\"fid\": 8\x7d, \"frames\": [\x7b\"frames_url\": \"https://glass.test\"\x7d]\x7d]\x7d\x7d"))
    let cast : Cast := { hash := "0x1", author := { fid := 8 }, embeds := [⟨some "https://cat.test/1.png", none⟩] }
    let resolved : Cast := { hash := "0x1", author := { fid := 8 }, frames := ["https://glass.test"] }
    let ctx : Context := ⟨default, default, some cast, [("images", .bool true), ("frames", .bool true)], default,
      false, false⟩
    (∀ url ∈ linksOf cast, ¬ Link.Malformed url) ∧ Fetches answer () ctx cast resolved ∧
      ∃ kinds : List String, "image" ∈ kinds ∧ "frame" ∈ kinds ∧
        ((containsEmbeds.run ctx).run answer ()).1 = .ok ⟨true, "Cast contains " ++ Text.join ", " kinds⟩ := by
  intro answer cast resolved ctx
  have links : linksOf cast = ["https://cat.test/1.png"] := by decide +kernel
  have image : Link.isImage? "https://cat.test/1.png" = some true := by decide +kernel
  have parseable : ∀ url ∈ linksOf cast, ¬ Link.Malformed url := by
    intro url member
    rw [links, List.mem_singleton] at member
    rw [member, ← isImage?_none_iff, image]
    exact nofun
  have fetches : Fetches answer () ctx cast resolved := ok_of_toOption (by decide +kernel)
  obtain ⟨verdict, kinds, run, passed, message, -, listed, -⟩ :=
    embeds_are_told_kind_by_kind answer () ctx cast resolved rfl parseable fetches
  have free : ¬ IsStuck (domainOf ctx) (linksOf cast) := not_isStuck parseable
  have shows : Displays (domainOf ctx) cast resolved "image" :=
    .itself (.image (links ▸ .head _) rfl image)
  have frames : Displays (domainOf ctx) cast resolved "frame" := .frame (.head _) rfl
  have images : "image" ∈ kinds := (listed ("image", "images") (by decide)).mpr
    ⟨rfl, (passes_alone_iff (by decide) rfl free fetches).mpr shows⟩
  have framed : Passes answer () containsEmbeds (alone ctx ("frame", "frames")) :=
    (passes_alone_iff (by decide) rfl free fetches).mpr frames
  have triggers : verdict.passed = true := passed.mpr ⟨("frame", "frames"), by decide, rfl, framed⟩
  refine ⟨parseable, fetches, kinds, images, (listed ("frame", "frames") (by decide)).mpr ⟨rfl, framed⟩, ?_⟩
  rw [run, ← triggers, ← (message triggers).trans (String.append_empty ..)]

end Curation.Check.Content
