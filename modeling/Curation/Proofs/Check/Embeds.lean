import Curation.Check.Content

/-! What decides about embeds. Images and videos show in the text of a link, so as long as
neither frames nor other links are asked for, nothing is fetched and the cast alone decides.
The one thing in the way is a link that cannot be taken apart: where one is looked at, the
check fails, whatever else the cast carries, and the author of a cast can always write one. -/
namespace Curation

/-! ## Links that cannot be taken apart -/

namespace Link

/-- The characters of a link that count: no control characters in front, and no tabs or line
breaks anywhere. -/
def counted (link : String) : List Char :=
  (link.toList.dropWhile isLeadingControl).filter fun c => c != '\t' && c != '\r' && c != '\n'

/-- The authority of a link: it follows two slashes, behind the scheme if there is one, and
ends before the next delimiter. -/
def HasAuthority (link : String) (authority : List Char) : Prop :=
  ∃ tail, (takeScheme (counted link)).2 = '/' :: '/' :: (authority ++ tail) ∧
    (∀ c ∈ authority, isDelimiter c = false) ∧ ∀ c ∈ tail.head?, isDelimiter c = true

/-- Why an authority cannot be taken apart. What is in brackets reaches from the first that
opens to the next that closes. -/
inductive Unreadable (authority : List Char) : Prop
  | unpaired : ¬ ('[' ∈ authority ↔ ']' ∈ authority) → Unreadable authority
  | notAddress {before inside after : List Char} : authority = before ++ '[' :: (inside ++ after) →
    '[' ∉ before → ']' ∉ inside → (∀ c ∈ after.head?, c = ']') → isBracketedHost inside = false →
    Unreadable authority
  | hidden {c : Char} : c ∈ authority → c.toNat ∈ hiddenDelimiters → Unreadable authority

/-- A link whose authority cannot be taken apart. -/
def Malformed (link : String) : Prop := ∃ authority, HasAuthority link authority ∧ Unreadable authority

/-- Where a text is split is where a part of it ends. -/
theorem span_eq {p : Char → Bool} {first rest : List Char} (inside : ∀ c ∈ first, p c = true)
    (ends : ∀ c ∈ rest.head?, p c = false) :
    (first ++ rest).takeWhile p = first ∧ (first ++ rest).dropWhile p = rest := by
  induction first with
  | nil =>
    cases rest with
    | nil => exact ⟨rfl, rfl⟩
    | cons c rest =>
      have stops : p c = false := ends c rfl
      simp [stops]
  | cons c first ih =>
    obtain ⟨taken, dropped⟩ := ih fun d member => inside d (.tail _ member)
    have here : p c = true := inside c (.head _)
    simp [here, taken, dropped]

private theorem head_dropWhile {p : Char → Bool} (text : List Char) :
    ∀ c ∈ (text.dropWhile p).head?, p c = false := by
  intro c first
  have stops := List.head?_dropWhile_not p text
  rw [Option.mem_def.mp first] at stops
  simpa using stops

theorem partition_eq {separator : Char} {before rest : List Char} (apart : separator ∉ before) :
    partition separator (before ++ separator :: rest) = (before, true, rest) := by
  have inside : ∀ c ∈ before, decide (c ≠ separator) = true := by
    intro c member
    exact decide_eq_true fun same => apart (same ▸ member)
  have ends : ∀ c ∈ (separator :: rest).head?, decide (c ≠ separator) = false := by simp
  obtain ⟨taken, dropped⟩ := span_eq inside ends
  simp only [partition, taken, dropped]

theorem partition_first {separator : Char} {before after : List Char} (apart : separator ∉ before)
    (ends : ∀ c ∈ after.head?, c = separator) : (partition separator (before ++ after)).1 = before := by
  have inside : ∀ c ∈ before, decide (c ≠ separator) = true := by
    intro c member
    exact decide_eq_true fun same => apart (same ▸ member)
  have stops : ∀ c ∈ after.head?, decide (c ≠ separator) = false := by
    intro c first
    simpa using ends c first
  obtain ⟨taken, -⟩ := span_eq inside stops
  unfold partition
  split
  · exact taken
  · exact taken

private theorem bracketsFit_eq {before inside after : List Char} (first : '[' ∉ before)
    (unclosed : ']' ∉ inside) (ends : ∀ c ∈ after.head?, c = ']')
    (closes : ']' ∈ before ++ '[' :: (inside ++ after)) :
    bracketsFit (before ++ '[' :: (inside ++ after)) = isBracketedHost inside := by
  have opened : (before ++ '[' :: (inside ++ after)).contains '[' = true := by simp
  have closed : (before ++ '[' :: (inside ++ after)).contains ']' = true := by simpa using closes
  unfold bracketsFit
  simp only [opened, closed, partition_eq first, partition_first unclosed ends]
  rfl

/-- Brackets fit unless they do not pair up or hold no address. -/
theorem unreadable_of_brackets {authority : List Char} (unfit : bracketsFit authority = false) :
    Unreadable authority := by
  by_cases opens : '[' ∈ authority
  · by_cases closes : ']' ∈ authority
    · obtain ⟨before, rest, rfl, first⟩ := List.eq_append_cons_of_mem opens
      obtain ⟨inside, after, rfl, unclosed, ends⟩ : ∃ inside after, rest = inside ++ after ∧ ']' ∉ inside ∧
          ∀ c ∈ after.head?, c = ']' := by
        refine ⟨rest.takeWhile (· ≠ ']'), rest.dropWhile (· ≠ ']'), List.takeWhile_append_dropWhile.symm, ?_, ?_⟩
        · intro member
          have kept : (rest.takeWhile (· ≠ ']')).all (· ≠ ']') = true := List.all_takeWhile
          simpa using List.all_eq_true.mp kept _ member
        · intro c head
          simpa using head_dropWhile rest c head
      rw [bracketsFit_eq first unclosed ends closes] at unfit
      exact .notAddress rfl first unclosed ends unfit
    · exact .unpaired fun pair => closes (pair.mp opens)
  · refine .unpaired fun pair => ?_
    have closes : ']' ∉ authority := fun member => opens (pair.mpr member)
    simp [bracketsFit, opens, closes] at unfit

/-- Only the authority decides whether a link can be taken apart. -/
private theorem parts?_slashes {link : String} {scheme rest : List Char}
    (taken : takeScheme (counted link) = (scheme, '/' :: '/' :: rest)) :
    parts? link = none ↔ bracketsFit (rest.takeWhile fun c => !isDelimiter c) = false ∨
      ∃ c ∈ rest.takeWhile fun c => !isDelimiter c, c.toNat ∈ hiddenDelimiters := by
  unfold counted at taken
  simp only [parts?, taken]
  split
  · rename_i unfit
    simpa using .inl (by simpa using unfit)
  · rename_i fit
    split
    · rename_i hides
      simpa using .inr (by simpa using hides)
    · rename_i plain
      simp only [reduceCtorEq, false_iff, not_or]
      exact ⟨by simpa using fit, by simpa using plain⟩

private theorem parts?_plain {link : String} {scheme rest : List Char}
    (taken : takeScheme (counted link) = (scheme, rest)) (plain : ∀ more, rest ≠ '/' :: '/' :: more) :
    parts? link ≠ none := by
  unfold counted at taken
  simp only [parts?, taken]
  exact Option.some_ne_none _

theorem unreadable_iff {authority : List Char} :
    Unreadable authority ↔ bracketsFit authority = false ∨ ∃ c ∈ authority, c.toNat ∈ hiddenDelimiters := by
  constructor
  · rintro (unpaired | ⟨rfl, first, unclosed, ends, noAddress⟩ | ⟨member, hides⟩)
    · left
      by_cases opens : '[' ∈ authority <;> by_cases closes : ']' ∈ authority
      · exact absurd (iff_of_true opens closes) unpaired
      · simp [bracketsFit, opens, closes]
      · simp [bracketsFit, opens, closes]
      · exact absurd (iff_of_false opens closes) unpaired
    · left
      rename_i before inside after
      by_cases closes : ']' ∈ before ++ '[' :: (inside ++ after)
      · rw [bracketsFit_eq first unclosed ends closes, noAddress]
      · have missing : (before ++ '[' :: (inside ++ after)).contains ']' = false := by simpa using closes
        have opened : (before ++ '[' :: (inside ++ after)).contains '[' = true := by simp
        simp only [bracketsFit, opened, missing]
        rfl
    · exact .inr ⟨_, member, hides⟩
  · rintro (unfit | ⟨c, member, hides⟩)
    · exact unreadable_of_brackets unfit
    · exact .hidden member hides

/-- A link cannot be taken apart exactly when it is malformed. -/
theorem parts?_none_iff (link : String) : parts? link = none ↔ Malformed link := by
  rcases taken : takeScheme (counted link) with ⟨scheme, rest⟩
  constructor
  · intro stuck
    by_cases slashes : ∃ more, rest = '/' :: '/' :: more
    · obtain ⟨more, rfl⟩ := slashes
      refine ⟨more.takeWhile fun c => !isDelimiter c, ⟨more.dropWhile fun c => !isDelimiter c, ?_, ?_, ?_⟩, ?_⟩
      · rw [taken, List.takeWhile_append_dropWhile]
      · intro c member
        have kept : (more.takeWhile fun c => !isDelimiter c).all (!isDelimiter ·) = true := List.all_takeWhile
        simpa using List.all_eq_true.mp kept c member
      · intro c head
        simpa using head_dropWhile more c head
      · exact unreadable_iff.mpr ((parts?_slashes taken).mp stuck)
    · exact absurd stuck (parts?_plain taken fun more same => slashes ⟨more, same⟩)
  · rintro ⟨authority, ⟨tail, shape, inside, ends⟩, unreadable⟩
    rw [taken] at shape
    obtain rfl : rest = _ := shape
    have span : ((authority ++ tail).takeWhile fun c => !isDelimiter c) = authority := by
      refine (span_eq ?_ ?_).1
      · intro c member
        rw [inside c member]
        rfl
      · intro c head
        rw [ends c head]
        rfl
    rw [parts?_slashes taken, span]
    exact unreadable_iff.mp unreadable

/-- A slash starts no scheme. -/
private theorem takeScheme_slash (rest : List Char) : (takeScheme ('/' :: rest)).2 = '/' :: rest := by
  have first : ('/' :: rest).takeWhile (fun c => decide (c ≠ ':')) =
      '/' :: rest.takeWhile fun c => decide (c ≠ ':') := by simp
  unfold takeScheme
  rcases parted : partition ':' ('/' :: rest) with ⟨name, found, behind⟩
  cases found with
  | false => rfl
  | true =>
    have name_eq : name = '/' :: rest.takeWhile fun c => decide (c ≠ ':') := by
      rw [← first]
      unfold partition at parted
      split at parted <;> cases parted
      rfl
    subst name_eq
    rfl

/-- Whatever text is wanted in a link, there is a malformed one with it. -/
theorem exists_malformed (part : String) : ∃ link, Malformed link ∧ part.toList <:+: link.toList := by
  -- The authority is a bracket that nothing closes; the text comes after it.
  refine ⟨"//[/" ++ part, ⟨['['], ⟨'/' :: part.toList.filter
    (fun c => c != '\t' && c != '\r' && c != '\n'), ?_, ?_, ?_⟩, ?_⟩, ?_⟩
  · have shown : counted ("//[/" ++ part) = '/' :: '/' :: '[' :: '/' :: part.toList.filter
        (fun c => c != '\t' && c != '\r' && c != '\n') := by
      simp [counted, isLeadingControl]
    rw [shown]
    exact takeScheme_slash _
  · simp [isDelimiter]
  · simp [isDelimiter]
  · exact .unpaired (by simp)
  · rw [String.toList_append]
    exact (List.suffix_append _ _).isInfix

end Link

namespace Check.Content

/-! ## What a cast shows by itself -/

/-- The domain that links have to mention, if one is given. -/
def domainOf (ctx : Context) : String := ((ctx.arg "domain").orElse (.str "")).display

/-- A link is looked at and cannot be taken apart. -/
def IsStuck (domain : String) (urls : List String) : Prop :=
  ∃ url ∈ urls, inDomain domain url = true ∧ Link.Malformed url

/-- The kinds of embeds that a cast shows by itself. -/
inductive Shows (domain : String) (cast : Cast) : String → Prop
  | image {url : String} : url ∈ linksOf cast → inDomain domain url = true → Link.isImage? url = some true →
    Shows domain cast "image"
  | video {url : String} : url ∈ linksOf cast → inDomain domain url = true → Link.isVideo url = true →
    Shows domain cast "video"
  | quote {embed : Embed} : embed ∈ cast.embeds → embed.quoted.isSome = true → Shows domain cast "casts"

/-- The cast shows embeds of a kind that is ticked. -/
def Carries (ctx : Context) (cast : Cast) : Prop :=
  ∃ kind ∈ embedKinds, ctx.isSet kind.2 = true ∧ Shows (domainOf ctx) cast kind.1

theorem isImage?_none_iff (url : String) : Link.isImage? url = none ↔ Link.Malformed url := by
  rw [← Link.parts?_none_iff]
  cases parts : Link.parts? url with
  | none | some => simp [Link.isImage?, parts]

/-- The images among some links, unless one that is looked at is malformed. -/
theorem images_eq (domain : String) (urls : List String) :
    (IsStuck domain urls ∧ images domain urls = .error .link) ∨
      (¬ IsStuck domain urls ∧ images domain urls =
        .ok (urls.filter fun url => inDomain domain url && Link.isImage? url == some true)) := by
  induction urls with
  | nil => exact .inr ⟨by simp [IsStuck], rfl⟩
  | cons url rest ih =>
    by_cases looked : inDomain domain url = true
    · cases shows : Link.isImage? url with
      | none =>
        have stuck : Link.Malformed url := (isImage?_none_iff url).mp shows
        exact .inl ⟨⟨url, .head _, looked, stuck⟩, by simp [images, looked, shows]⟩
      | some isImage =>
        have fine : ¬ Link.Malformed url := by
          rw [← isImage?_none_iff, shows]
          exact nofun
        rcases ih with ⟨⟨other, member, stuck⟩, failed⟩ | ⟨free, found⟩
        · refine .inl ⟨⟨other, .tail _ member, stuck⟩, ?_⟩
          simp [images, looked, shows, failed, bind, Except.bind]
        · refine .inr ⟨?_, ?_⟩
          · rintro ⟨other, member, seen, stuck⟩
            rcases List.mem_cons.mp member with rfl | later
            · exact fine stuck
            · exact free ⟨other, later, seen, stuck⟩
          · cases isImage <;> simp [images, looked, shows, found, bind, Except.bind, pure, Except.pure]
    · have passed : images domain (url :: rest) = images domain rest := by simp [images, looked]
      have same : IsStuck domain (url :: rest) ↔ IsStuck domain rest := by simp [IsStuck, looked]
      rw [passed, same]
      simpa [looked] using ih

theorem mem_add {findings : Findings} {kind added : String} {sources : List String} :
    kind ∈ (findings.add added sources).kinds ↔
      kind ∈ findings.kinds ∨ (kind = added ∧ ∃ source, source ∈ sources) := by
  cases sources with
  | nil => simp [Findings.add]
  | cons source rest =>
    have shape : (findings.add added (source :: rest)).kinds = findings.kinds ++ [added] := rfl
    simp only [shape, List.mem_append, List.mem_singleton]
    exact or_congr_right (iff_self_and.mpr fun _ => ⟨source, .head _⟩)

/-- What the cast shows by itself is found, unless a link that is looked at is malformed. -/
theorem findingsOf_eq (domain : String) (cast : Cast) :
    (IsStuck domain (linksOf cast) ∧ findingsOf domain cast = .error .link) ∨
      (¬ IsStuck domain (linksOf cast) ∧ ∃ findings, findingsOf domain cast = .ok findings ∧
        ∀ kind, kind ∈ findings.kinds ↔ Shows domain cast kind) := by
  rcases images_eq domain (linksOf cast) with ⟨stuck, failed⟩ | ⟨free, found⟩
  · exact .inl ⟨stuck, by simp only [findingsOf, failed]; rfl⟩
  · refine .inr ⟨free, _, by simp only [findingsOf, found]; rfl, ?_⟩
    intro kind
    simp only [mem_add]
    constructor
    · rintro (((nothing | ⟨rfl, hash, quoted⟩) | ⟨rfl, url, shown⟩) | ⟨rfl, url, shown⟩)
      · exact absurd nothing List.not_mem_nil
      · obtain ⟨embed, member, quotes⟩ := List.mem_filterMap.mp quoted
        obtain ⟨cast, quotes, -⟩ := Option.map_eq_some_iff.mp quotes
        exact .quote member (Option.isSome_of_mem quotes)
      · obtain ⟨member, looked, image⟩ : url ∈ linksOf cast ∧ inDomain domain url = true ∧
            Link.isImage? url = some true := by simpa using shown
        exact .image member looked image
      · obtain ⟨member, looked, video⟩ : url ∈ linksOf cast ∧ inDomain domain url = true ∧
            Link.isVideo url = true := by simpa [videos] using shown
        exact .video member looked video
    · intro shows
      cases shows with
      | @image url member looked image =>
        exact .inl (.inr ⟨rfl, url, List.mem_filter.mpr ⟨member, by simp [looked, image]⟩⟩)
      | @video url member looked video =>
        exact .inr ⟨rfl, url, List.mem_filter.mpr ⟨member, by simp [looked, video]⟩⟩
      | @quote embed member quotes =>
        obtain ⟨quoted, there⟩ := Option.isSome_iff_exists.mp quotes
        exact .inl (.inl (.inr ⟨rfl, quoted.hash, List.mem_filterMap.mpr ⟨embed, member, by simp [there]⟩⟩))

theorem embedVerdict_passed {wanted : List String} {domain : String} {findings : Findings} :
    (embedVerdict wanted domain findings).passed = true ↔ ∃ kind ∈ wanted, kind ∈ findings.kinds := by
  have shape : (embedVerdict wanted domain findings).passed =
      !(wanted.filter findings.kinds.contains).isEmpty := by
    unfold embedVerdict
    by_cases nothing : (wanted.filter findings.kinds.contains).isEmpty = true <;> simp [nothing]
  simp [shape]

/-! ## The decision -/

/-- Where neither frames nor other links are asked for, the cast alone decides: the check fails where
a link that it looks at is malformed, and says whether an embed of a ticked kind shows otherwise. -/
private theorem run_eq (ctx : Context) {cast : Cast} (given : ctx.cast = some cast)
    (no_links : ctx.isSet "links" = false) (no_frames : ctx.isSet "frames" = false) :
    (IsStuck (domainOf ctx) (linksOf cast) ∧ containsEmbeds.run ctx = .failed .link) ∨
      (¬ IsStuck (domainOf ctx) (linksOf cast) ∧ ∃ verdict, containsEmbeds.run ctx = .done verdict ∧
        (verdict.passed = true ↔ Carries ctx cast)) := by
  have unfolded : containsEmbeds.run ctx =
      (Program.ofExcept (findingsOf (domainOf ctx) cast)).bind fun findings => .done
        (embedVerdict ((embedKinds.filter fun kind => ctx.isSet kind.2).map (·.1)) (domainOf ctx) findings) := by
    simp only [containsEmbeds, onCast, given, no_links, no_frames]
    rfl
  rcases findingsOf_eq (domainOf ctx) cast with ⟨stuck, failed⟩ | ⟨free, findings, found, shown⟩
  · exact .inl ⟨stuck, by rw [unfolded, failed]; rfl⟩
  · refine .inr ⟨free, _, by rw [unfolded, found]; rfl, ?_⟩
    rw [embedVerdict_passed]
    constructor
    · rintro ⟨kind, wanted, there⟩
      obtain ⟨pair, ticked, rfl⟩ := List.mem_map.mp wanted
      obtain ⟨known, chosen⟩ := List.mem_filter.mp ticked
      exact ⟨pair, known, chosen, (shown _).mp there⟩
    · rintro ⟨pair, known, chosen, shows⟩
      exact ⟨pair.1, List.mem_map_of_mem (List.mem_filter.mpr ⟨known, chosen⟩), (shown _).mpr shows⟩

/-- A malformed link with the domain that is asked for, if any. -/
private theorem exists_stuck (domain : String) :
    ∃ url, ∀ urls : List String, url ∈ urls → IsStuck domain urls := by
  obtain ⟨url, malformed, mentions⟩ := Link.exists_malformed domain
  refine ⟨url, fun urls member => ⟨url, member, ?_, malformed⟩⟩
  unfold inDomain
  rw [Text.occursIn_iff.mpr mentions, Bool.or_true]

/-- Where neither frames nor other links are asked for, the cast alone decides, but not always:
- where a link that is looked at is malformed, the check fails, whatever else the cast carries;
- otherwise it says whether the cast shows an embed of a ticked kind;
- whatever the arguments are, there is a link that makes the check fail wherever it is embedded. -/
theorem malformed_links_break_embeds (ctx : Context) (cast : Cast) (given : ctx.cast = some cast)
    (no_links : ctx.isSet "links" = false) (no_frames : ctx.isSet "frames" = false) :
    (IsStuck (domainOf ctx) (linksOf cast) → containsEmbeds.run ctx = .failed .link) ∧
      (¬ IsStuck (domainOf ctx) (linksOf cast) →
        ∃ verdict, containsEmbeds.run ctx = .done verdict ∧ (verdict.passed = true ↔ Carries ctx cast)) ∧
      ∃ url, ∀ other : Cast, url ∈ linksOf other →
        containsEmbeds.run { ctx with cast := some other } = .failed .link := by
  refine ⟨?_, ?_, ?_⟩
  · intro stuck
    rcases run_eq ctx given no_links no_frames with ⟨-, failed⟩ | ⟨free, -⟩
    · exact failed
    · exact absurd stuck free
  · intro free
    rcases run_eq ctx given no_links no_frames with ⟨stuck, -⟩ | ⟨-, decided⟩
    · exact absurd stuck free
    · exact decided
  · obtain ⟨url, sticks⟩ := exists_stuck (domainOf ctx)
    refine ⟨url, fun other embedded => ?_⟩
    have stuck := sticks (linksOf other) embedded
    rcases run_eq { ctx with cast := some other } rfl no_links no_frames with ⟨-, failed⟩ | ⟨free, -⟩
    · exact failed
    · exact absurd stuck free

/-- A link whose bracket is not closed leaves an image check without a decision. -/
theorem open_bracket_breaks_embeds :
    let cast : Cast := { hash := "0x1", author := default, embeds := [⟨some "http://[x", none⟩] }
    let ctx : Context := ⟨default, default, some cast, [("images", .bool true)], default, false, false⟩
    ctx.isSet "links" = false ∧ ctx.isSet "frames" = false ∧ containsEmbeds.run ctx = .failed .link := by
  intro cast ctx
  have malformed : Link.Malformed "http://[x" := by
    refine ⟨['[', 'x'], ⟨[], by decide +kernel, ?_, nofun⟩, .unpaired ?_⟩
    · simp [Link.isDelimiter]
    · decide
  have stuck : IsStuck (domainOf ctx) (linksOf cast) :=
    ⟨"http://[x", by decide +kernel, by decide +kernel, malformed⟩
  exact ⟨rfl, rfl, (malformed_links_break_embeds ctx cast rfl rfl rfl).1 stuck⟩

end Check.Content

end Curation
