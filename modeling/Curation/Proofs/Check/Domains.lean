import Curation.Proofs.Check.EmbedKinds
import Curation.Proofs.Text.Lower

/-! Embeds from a domain. A link comes from the domain of its host and from those above it, but the
check looks for the domain anywhere in the link, and quoted casts it does not filter at all. Main
statement: for every domain there is a cast with embeds of all kinds, none of them from it, that
triggers whatever is ticked. -/
namespace Curation

/-! ## Links of a domain -/

namespace Link

variable {domain link : String} {scheme authority tail before behind segment : List Char}

/-- The host of a link is a domain or under it. -/
def ComesFrom (domain link : String) : Prop :=
  ∃ parts, parts? link = some parts ∧ (Text.lower parts.host = Text.lower domain ∨
    '.' :: (Text.lower domain).toList <:+ (Text.lower parts.host).toList)

theorem ComesFrom.suffix {parts : Parts} (comes : ComesFrom domain link) (taken : parts? link = some parts) :
    (Text.lower domain).toList <:+ (Text.lower parts.host).toList := by
  obtain ⟨others, same, whole | under⟩ := comes
  all_goals obtain rfl : parts = others := Option.some.inj (taken.symm.trans same)
  · rw [whole]
  · exact (List.suffix_cons ..).trans under

/-- An authority that can be taken apart is the one of the link. -/
theorem parts?_of_authority (taken : takeScheme (counted link) = (scheme, '/' :: '/' :: (authority ++ tail)))
    (inside : ∀ c ∈ authority, isDelimiter c = false) (ends : ∀ c ∈ tail.head?, isDelimiter c = true)
    (readable : ¬ Unreadable authority) : parts? link = some ⟨scheme, authority, tail⟩ := by
  obtain ⟨within, behind⟩ : (authority ++ tail).takeWhile (fun c => !isDelimiter c) = authority ∧
      (authority ++ tail).dropWhile (fun c => !isDelimiter c) = tail := by
    refine span_eq ?_ ?_
    · intro c member
      rw [inside c member]
      rfl
    · intro c head
      rw [ends c head]
      rfl
  rw [unreadable_iff, not_or, Bool.not_eq_false] at readable
  obtain ⟨fit, plain⟩ := readable
  have unhidden : (authority.any fun c => hiddenDelimiters.contains c.toNat) = false := by
    simpa using plain
  unfold counted at taken
  simp only [parts?, taken, within, behind, fit, unhidden]
  rfl

theorem not_malformed {parts : Parts} (taken : parts? link = some parts) : ¬ Malformed link := by
  rw [← parts?_none_iff, taken]
  exact Option.some_ne_none parts

theorem behindLast_eq {separator : Char} (apart : separator ∉ behind) :
    behindLast separator (before ++ separator :: behind) = behind := by
  have inside : ∀ c ∈ behind.reverse, decide (c ≠ separator) = true := by
    intro c member
    exact decide_eq_true fun same => apart (same ▸ List.mem_reverse.mp member)
  have ends : ∀ c ∈ (separator :: before.reverse).head?, decide (c ≠ separator) = false := by simp
  have taken := (span_eq inside ends).1
  simp only [behindLast, List.reverse_append, List.reverse_cons, List.append_assoc, List.singleton_append, taken,
    List.reverse_reverse]

/-- The extension of a text is the one of its last segment. -/
theorem splitExtension_segment (last : '/' ∉ segment) :
    (splitExtension (before ++ '/' :: segment)).2 = (splitExtension ('/' :: segment)).2 := by
  have here : behindLast '/' ([] ++ '/' :: segment) = segment := behindLast_eq last
  simp only [splitExtension, behindLast_eq last, List.nil_append] at here ⊢
  rw [here]
  split <;> rfl

/-- An extension that names the kind by itself, and not for what is compressed or archived under it. -/
def IsPlain (extension : List Char) : Prop :=
  suffixAlias? (String.ofList extension) = none ∧ compressionSuffixes.contains (String.ofList extension) = false

instance (extension : List Char) : Decidable (IsPlain extension) := inferInstanceAs (Decidable (_ ∧ _))

theorem kindExtension_segment (last : '/' ∉ segment) (plain : IsPlain (splitExtension ('/' :: segment)).2) :
    kindExtension (before ++ '/' :: segment) = kindExtension ('/' :: segment) := by
  obtain ⟨unaliased, uncompressed⟩ := plain
  have same : (splitExtension (before ++ '/' :: segment)).2 = (splitExtension ('/' :: segment)).2 :=
    splitExtension_segment last
  simp only [kindExtension, same, unaliased, uncompressed]
  rfl

/-- The kind of a link of the web is the one of its last segment. -/
theorem mediaType?_segment (shape : link.toList = "http:".toList ++ (before ++ '/' :: segment))
    (last : '/' ∉ segment) (plain : IsPlain (splitExtension ('/' :: segment)).2) :
    mediaType? link = mediaType? (String.ofList ("http:/".toList ++ segment)) := by
  have scheme (rest : List Char) :
      splitScheme ("http:".toList ++ rest) = (Text.lowerFrom [] "http".toList, rest) := rfl
  have web : (String.ofList (Text.lowerFrom [] "http".toList) == "data") = false := by decide +kernel
  have single : ("http:/".toList ++ segment) = "http:".toList ++ '/' :: segment := rfl
  simp only [mediaType?, shape, String.toList_ofList, single, scheme, web, kindExtension_segment last plain,
    Bool.false_eq_true, if_false]

/-! ## Links that only mention a domain -/

/-- A link to a file on a host, with a domain in its query. -/
def mention (host domain file : String) : String := "http://" ++ host ++ "/?" ++ domain ++ "/" ++ file

/-- Two hosts that are under no common domain. -/
def hosts : List String := ["news.test", "news.org"]

theorem mention_mentions (host domain file : String) : domain.toList <:+: (mention host domain file).toList := by
  refine ⟨("http://" ++ host ++ "/?").toList, ("/" ++ file).toList, ?_⟩
  simp [mention]

theorem parts?_mention {host : String} (known : host ∈ hosts) (domain file : String) :
    ∃ tail, parts? (mention host domain file) = some ⟨"http".toList, host.toList, tail⟩ := by
  let counts (c : Char) : Bool := c != '\t' && c != '\r' && c != '\n'
  refine ⟨'/' :: '?' :: (domain.toList ++ '/' :: file.toList).filter counts, parts?_of_authority ?_ ?_ ?_ ?_⟩
  · have kept : host.toList.filter counts = host.toList := by
      revert host
      simp [hosts, counts]
    have counts : counted (mention host domain file) = "http".toList ++ ':' :: '/' :: '/' ::
        (host.toList ++ '/' :: '?' :: (domain.toList ++ '/' :: file.toList).filter counts) := by
      simp [counted, mention, isLeadingControl, kept, counts]
    rw [counts, takeScheme, partition_eq (by decide)]
    rfl
  · revert host
    simp [hosts, isDelimiter]
  · simp [isDelimiter]
  · rw [unreadable_iff]
    revert host
    simp [hosts, bracketsFit, hiddenDelimiters]

/-- The hosts are read as they are written, and not known for images. -/
theorem host_spec : ∀ host ∈ hosts, Parts.host ⟨"http".toList, host.toList, []⟩ = host ∧ Text.lower host = host ∧
    host.toList.isEmpty = false ∧ imageHosts.contains host = false := by
  decide +kernel

theorem isImage?_mention {host : String} (known : host ∈ hosts) (domain file : String) :
    isImage? (mention host domain file) = some (mediaTypeStarts (mention host domain file) "image") := by
  obtain ⟨tail, taken⟩ := parts?_mention known domain file
  obtain ⟨read, -, named, other⟩ := host_spec host known
  have same : Parts.host ⟨"http".toList, host.toList, tail⟩ = host := read
  have scheme : "http".toList.isEmpty = false := rfl
  rw [isImage?, taken]
  simp only [bind, Option.bind, same, other, named, scheme, Bool.not_false, Bool.or_false, Bool.true_and]
  rfl

/-- No domain has both hosts under it, so one of them is under another. -/
theorem exists_host (full : domain ≠ "") :
    ∃ host ∈ hosts, ∀ file, ¬ ComesFrom domain (mention host domain file) := by
  -- A domain ends in the last character of every host under it, and the hosts end in different ones.
  have lasts : ∀ host ∈ hosts, ∀ file, ComesFrom domain (mention host domain file) →
      (Text.lower domain).toList.getLast? = host.toList.getLast? := by
    intro host known file comes
    obtain ⟨tail, taken⟩ := parts?_mention known domain file
    obtain ⟨read, lowered, -⟩ := host_spec host known
    obtain ⟨before, whole⟩ := comes.suffix taken
    rw [show Parts.host ⟨"http".toList, host.toList, tail⟩ = host from read, lowered] at whole
    rw [← whole, List.getLast?_append_of_ne_nil]
    simpa using Text.lower_ne_empty full
  by_cases test : ∃ file, ComesFrom domain (mention "news.test" domain file)
  · obtain ⟨file, fromTest⟩ := test
    refine ⟨"news.org", by decide, fun other fromOrg => ?_⟩
    have both := (lasts _ (by decide) _ fromTest).symm.trans (lasts _ (by decide) _ fromOrg)
    exact absurd both (by decide)
  · exact ⟨"news.test", by decide, fun file fromTest => test ⟨file, fromTest⟩⟩

theorem mediaType?_mention (host domain : String) {file : String} (last : '/' ∉ file.toList)
    (plain : IsPlain (splitExtension ('/' :: file.toList)).2) :
    mediaType? (mention host domain file) = mediaType? (String.ofList ("http:/".toList ++ file.toList)) := by
  have shape : (mention host domain file).toList =
      "http:".toList ++ (("//" ++ host ++ "/?" ++ domain).toList ++ '/' :: file.toList) := by
    simp [mention]
  exact mediaType?_segment shape last plain

end Link

namespace Check.Content

open Link (ComesFrom mention hosts)

variable {σ : Type} {answer : (ask : Ask) → σ → Answer ask × σ} {state : σ} {ctx : Context}
  {cast resolved : Cast} {domain kind url : String}

/-! ## Embeds of a kind -/

/-- The links that a cast embeds as one of a kind, whatever domain is asked for. -/
inductive EmbedsAs (cast resolved : Cast) : String → String → Prop
  | image {url : String} : url ∈ linksOf cast → Link.isImage? url = some true → EmbedsAs cast resolved "image" url
  | video {url : String} : url ∈ linksOf cast → Link.isVideo url = true → EmbedsAs cast resolved "video" url
  | frame {url : String} : url ∈ resolved.frames → EmbedsAs cast resolved "frame" url
  | link {url : String} : url ∈ linksOf resolved → ¬ Explains "" cast resolved url →
    EmbedsAs cast resolved "link" url

/-- The cast quotes another one. -/
def Quotes (cast : Cast) : Prop := ∃ embed ∈ cast.embeds, embed.quoted.isSome = true

theorem inDomain_iff (set : domain ≠ "") : inDomain domain url = true ↔ domain.toList <:+: url.toList := by
  rw [inDomain, Bool.or_eq_true, Text.occursIn_iff]
  exact or_iff_right fun empty => set (String.isEmpty_iff.mp empty)

/-- What explains a link that mentions the domain does not depend on the domain. -/
theorem explains_iff (looked : inDomain domain url = true) :
    Explains domain cast resolved url ↔ Explains "" cast resolved url := by
  constructor
  · rintro (⟨member, -, image⟩ | ⟨member, -, video⟩ | ⟨member, -⟩ | ⟨member, quotes, same⟩)
    · exact .image member rfl image
    · exact .video member rfl video
    · exact .frame member rfl
    · exact .quote member quotes same
  · rintro (⟨member, -, image⟩ | ⟨member, -, video⟩ | ⟨member, -⟩ | ⟨member, quotes, same⟩)
    · exact .image member looked image
    · exact .video member looked video
    · exact .frame member looked
    · exact .quote member quotes same

/-- What is displayed for a domain are the quotes, and the embeds whose links mention it. -/
theorem displays_iff (set : domain ≠ "") : Displays domain cast resolved kind ↔
    (kind = "casts" ∧ Quotes cast) ∨ ∃ url, EmbedsAs cast resolved kind url ∧ domain.toList <:+: url.toList := by
  simp only [← inDomain_iff set]
  constructor
  · rintro ((⟨member, looked, image⟩ | ⟨member, looked, video⟩ | ⟨member, quotes⟩) |
      ⟨member, looked⟩ | ⟨member, looked, plain⟩)
    · exact .inr ⟨_, .image member image, looked⟩
    · exact .inr ⟨_, .video member video, looked⟩
    · exact .inl ⟨rfl, _, member, quotes⟩
    · exact .inr ⟨_, .frame member, looked⟩
    · exact .inr ⟨_, .link member ((explains_iff looked).not.mp plain), looked⟩
  · rintro (⟨rfl, embed, member, quotes⟩ |
      ⟨url, ⟨member, image⟩ | ⟨member, video⟩ | member | ⟨member, plain⟩, looked⟩)
    · exact .itself (.quote member quotes)
    · exact .itself (.image member looked image)
    · exact .itself (.video member looked video)
    · exact .frame member looked
    · exact .link member looked ((explains_iff looked).not.mpr plain)

/-! ## Casts that only mention a domain -/

/-- A cast with a quote and with links to an image, a video, a frame and a story, which all mention the
domain in their query. -/
def mentioning (host domain : String) : Cast :=
  { hash := "0x1"
    author := default
    embeds := ⟨none, some ⟨none, "0x2"⟩⟩ ::
      ["cat.png", "cat.mp4", "frame", "story"].map fun file => ⟨some (mention host domain file), none⟩ }

/-- The frame is found once the cast is resolved. -/
def mentioningResolved (host domain : String) : Cast :=
  { mentioning host domain with frames := [mention host domain "frame"] }

theorem linksOf_mentioning (host domain : String) : linksOf (mentioning host domain) =
    ["cat.png", "cat.mp4", "frame", "story"].map (mention host domain) := by
  have full (file : String) : mention host domain file ≠ "" := by simp [mention]
  simp [linksOf, mentioning, Option.filter, full]

/-- The story is not known for anything else than a link. -/
theorem story_unexplained {host : String} (known : host ∈ hosts) (domain : String) :
    ¬ Explains "" (mentioning host domain) (mentioningResolved host domain) (mention host domain "story") := by
  have type : Link.mediaType? (mention host domain "story") = none :=
    (Link.mediaType?_mention host domain (by decide) (by decide +kernel)).trans (by decide +kernel)
  rintro (⟨-, -, image⟩ | ⟨-, -, video⟩ | ⟨member, -⟩ | ⟨member, quotes, same⟩)
  · rw [Link.isImage?_mention known, Link.mediaTypeStarts, type] at image
    cases image
  · rw [Link.isVideo, Link.mediaTypeStarts, Link.mediaTypeStarts, type] at video
    cases video
  · simp [mentioningResolved, mention] at member
  · -- The one quote has a hash that is no link.
    rcases List.mem_cons.mp member with rfl | link
    · cases quotes
      simpa [mention] using congrArg String.toList same
    · obtain ⟨file, -, rfl⟩ := List.mem_map.mp link
      cases quotes

/-- For every kind there is an embed that mentions the domain, or a quote. -/
theorem displays_mentioning {host : String} (known : host ∈ hosts) (set : domain ≠ "") :
    ∀ kind ∈ embedKinds, Displays domain (mentioning host domain) (mentioningResolved host domain) kind.1 := by
  have mentions (file : String) := Link.mention_mentions host domain file
  have image : Link.isImage? (mention host domain "cat.png") = some true := by
    have type : Link.mediaType? (mention host domain "cat.png") = some "image" :=
      (Link.mediaType?_mention host domain (by decide) (by decide +kernel)).trans (by decide +kernel)
    rw [Link.isImage?_mention known, Link.mediaTypeStarts, type]
    rfl
  have video : Link.isVideo (mention host domain "cat.mp4") = true := by
    have type : Link.mediaType? (mention host domain "cat.mp4") = some "video" :=
      (Link.mediaType?_mention host domain (by decide) (by decide +kernel)).trans (by decide +kernel)
    rw [Link.isVideo, Link.mediaTypeStarts, type]
    rfl
  have links : ∀ file ∈ ["cat.png", "cat.mp4", "frame", "story"],
      mention host domain file ∈ linksOf (mentioning host domain) := by
    intro file member
    rw [linksOf_mentioning]
    exact List.mem_map_of_mem member
  intro kind listed
  rw [displays_iff set]
  simp only [embedKinds, List.mem_cons, List.not_mem_nil, or_false] at listed
  rcases listed with rfl | rfl | rfl | rfl | rfl
  · exact .inr ⟨_, .image (links "cat.png" (by simp)) image, mentions _⟩
  · exact .inr ⟨_, .video (links "cat.mp4" (by simp)) video, mentions _⟩
  · exact .inr ⟨_, .frame (.head _), mentions _⟩
  · exact .inr ⟨_, .link (links "story" (by simp)) (story_unexplained known domain), mentions _⟩
  · exact .inl ⟨rfl, _, .head _, rfl⟩

/-- The cast can be taken apart and displays every kind, so any tick makes it trigger. -/
theorem passes_mentioning_iff {host : String} (known : host ∈ hosts) (set : domainOf ctx ≠ "")
    (fetches : Fetches answer state ctx (mentioning host (domainOf ctx)) (mentioningResolved host (domainOf ctx))) :
    Passes answer state containsEmbeds { ctx with cast := some (mentioning host (domainOf ctx)) } ↔
      wanted ctx ≠ [] := by
  have free : ¬ IsStuck (domainOf ctx) (linksOf (mentioning host (domainOf ctx))) := by
    refine not_isStuck fun url member => ?_
    rw [linksOf_mentioning] at member
    obtain ⟨file, -, rfl⟩ := List.mem_map.mp member
    obtain ⟨tail, taken⟩ := Link.parts?_mention known (domainOf ctx) file
    exact Link.not_malformed taken
  rw [passes_embeds_iff]
  constructor
  · rintro ⟨-, -, -, -, -, kind, ticked, -⟩
    exact List.ne_nil_of_mem ticked
  · intro something
    obtain ⟨kind, ticked⟩ := List.exists_mem_of_ne_nil _ something
    obtain ⟨pair, isSet, rfl⟩ := List.mem_map.mp ticked
    have displays := displays_mentioning known set pair (List.mem_filter.mp isSet).1
    exact ⟨_, _, rfl, free, fun _ => fetches, pair.1, ticked, displays⟩

end Check.Content

end Curation
