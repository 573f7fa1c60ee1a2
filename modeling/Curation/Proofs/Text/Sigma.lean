import Curation.Proofs.Text.Lower
import Curation.Text.Search

/-! Searching without regard to case. What is compared are lowered texts, and lowering takes one
character at a time but for the capital sigma, whose form hangs on what stands around it. A part
lowered by itself is therefore a part of the lowered text only as long as it decides itself about the
forms of its sigmas. Main statement: lowering keeps a part in all texts that it occurs in exactly if
none of its sigmas is open. -/
namespace Curation.Text

variable {before before' after after' part first second : List Char}

/-- The lower case of a sigma between two texts, the first of them with its last character first. -/
def lowerSigma (before after : List Char) : Char :=
  if nearestIsCased before && !nearestIsCased after then 'ς' else 'σ'

/-- The lower case of a character between two texts. -/
def lowerBetween (before : List Char) (c : Char) (after : List Char) : List Char :=
  if c = 'Σ' then [lowerSigma before after] else if c = 'İ' then ['i', '\u0307'] else [lowerChar c]

/-- The lower case of a part of a text, where something stands before and after it. -/
def lowerPart (before after : List Char) : List Char → List Char
  | [] => []
  | c :: rest => lowerBetween before c (rest ++ after) ++ lowerPart (c :: before) after rest

/-- A capital sigma whose form the text leaves open. A cased character in front would make it final,
or one behind would keep it from being so. -/
inductive OpenSigma (part : List Char) : Prop
  | front {first second : List Char} : part = first ++ 'Σ' :: second → first.all isCaseIgnorable = true →
    nearestIsCased second = false → OpenSigma part
  | back {first second : List Char} : part = first ++ 'Σ' :: second → nearestIsCased first.reverse = true →
    second.all isCaseIgnorable = true → OpenSigma part

theorem OpenSigma.mem (opened : OpenSigma part) : 'Σ' ∈ part := by
  cases opened with
  | front split | back split =>
    rw [split]
    exact List.mem_append_right _ (.head _)

/-! ## Parts of texts -/

theorem lowerFrom_append :
    lowerFrom before (part ++ after) = lowerPart before after part ++ lowerFrom (part.reverse ++ before) after := by
  induction part generalizing before with
  | nil => rfl
  | cons c rest ih => simp [lowerFrom, lowerPart, lowerBetween, lowerSigma, ih]

theorem lowerFrom_eq : lowerFrom before part = lowerPart before [] part := by
  have whole : lowerFrom before (part ++ []) = lowerPart before [] part ++ [] := lowerFrom_append
  rwa [List.append_nil, List.append_nil] at whole

theorem lowerPart_append : lowerPart before after (first ++ second) =
    lowerPart before (second ++ after) first ++ lowerPart (first.reverse ++ before) after second := by
  induction first generalizing before with
  | nil => rfl
  | cons c rest ih => simp [lowerPart, ih]

/-- What stands around a part matters to its sigmas only. -/
theorem lowerPart_congr (same : ∀ first second, part = first ++ 'Σ' :: second →
      lowerSigma (first.reverse ++ before) (second ++ after) =
        lowerSigma (first.reverse ++ before') (second ++ after')) :
    lowerPart before after part = lowerPart before' after' part := by
  induction part generalizing before before' with
  | nil => rfl
  | cons c rest ih =>
    have later : lowerPart (c :: before) after rest = lowerPart (c :: before') after' rest := by
      refine ih fun first second split => ?_
      simpa using same (c :: first) second (by rw [split]; rfl)
    have here : lowerBetween before c (rest ++ after) = lowerBetween before' c (rest ++ after') := by
      unfold lowerBetween
      by_cases sigma : c = 'Σ'
      · simpa [sigma] using same [] rest (by rw [sigma]; rfl)
      · simp [sigma]
    rw [lowerPart, lowerPart, here, later]

/-- A form is no more frequent in other surroundings if no sigma takes it there that has another
form here. -/
theorem count_lowerPart_le {form : Char} (fewer : ∀ first second, part = first ++ 'Σ' :: second →
      lowerSigma (first.reverse ++ before') (second ++ after') = form →
        lowerSigma (first.reverse ++ before) (second ++ after) = form) :
    (lowerPart before' after' part).count form ≤ (lowerPart before after part).count form := by
  induction part generalizing before before' with
  | nil => exact Nat.le_refl _
  | cons c rest ih =>
    have later : (lowerPart (c :: before') after' rest).count form ≤
        (lowerPart (c :: before) after rest).count form := by
      refine ih fun first second split taken => ?_
      simpa using fewer (c :: first) second (by rw [split]; rfl) (by simpa using taken)
    have here : (lowerBetween before' c (rest ++ after')).count form ≤
        (lowerBetween before c (rest ++ after)).count form := by
      unfold lowerBetween
      by_cases sigma : c = 'Σ'
      · have step := fewer [] rest (by rw [sigma]; rfl)
        simp only [sigma, if_pos, List.count_singleton]
        by_cases taken : lowerSigma before' (rest ++ after') = form
        · have same : lowerSigma before (rest ++ after) = form := step taken
          simp [taken, same]
        · simp [taken]
      · simp [sigma]
    simp only [lowerPart, List.count_append]
    exact Nat.add_le_add here later

/-- Among all sigmas of a part, one that takes a form here and not there makes the form more frequent. -/
theorem count_lowerPart_lt {form : Char} (fewer : ∀ first second, part = first ++ 'Σ' :: second →
      lowerSigma (first.reverse ++ before') (second ++ after') = form →
        lowerSigma (first.reverse ++ before) (second ++ after) = form)
    (split : part = first ++ 'Σ' :: second)
    (here : lowerSigma (first.reverse ++ before) (second ++ after) = form)
    (there : lowerSigma (first.reverse ++ before') (second ++ after') ≠ form) :
    (lowerPart before' after' part).count form < (lowerPart before after part).count form := by
  subst split
  have front : (lowerPart before' ('Σ' :: second ++ after') first).count form ≤
      (lowerPart before ('Σ' :: second ++ after) first).count form := by
    refine count_lowerPart_le fun one two split taken => ?_
    simpa using fewer one (two ++ 'Σ' :: second) (by simp [split]) (by simpa using taken)
  have back : (lowerPart ('Σ' :: (first.reverse ++ before')) after' second).count form ≤
      (lowerPart ('Σ' :: (first.reverse ++ before)) after second).count form := by
    refine count_lowerPart_le fun one two split taken => ?_
    simpa using fewer (first ++ 'Σ' :: one) two (by simp [split]) (by simpa using taken)
  have middle : (lowerBetween (first.reverse ++ before') 'Σ' (second ++ after')).count form <
      (lowerBetween (first.reverse ++ before) 'Σ' (second ++ after)).count form := by
    simp [lowerBetween, here, there]
  simp only [lowerPart_append, lowerPart, List.count_append]
  omega

/-! ## Surroundings -/

-- Reduction would run into the tables of characters, so what is true of any classes of characters is
-- said of any.
private theorem match_dropWhile (ignorable cased : Char → Bool) (text : List Char) :
    (match text.dropWhile ignorable with
      | c :: _ => cased c
      | [] => false) = (text.dropWhile ignorable).head?.any cased := by
  cases text.dropWhile ignorable with
  | nil => rfl
  | cons c rest => rfl

theorem nearestIsCased_eq (text : List Char) :
    nearestIsCased text = (text.dropWhile isCaseIgnorable).head?.any isCased :=
  match_dropWhile isCaseIgnorable isCased text

/-- The first that counts is looked for in the second list only if nothing in the first one counts. -/
private theorem head?_dropWhile_append (p : Char → Bool) (near far : List Char) :
    ((near ++ far).dropWhile p).head? =
      if near.all p then (far.dropWhile p).head? else (near.dropWhile p).head? := by
  induction near with
  | nil => simp
  | cons c rest ih =>
    cases passed : p c with
    | true => simpa [passed] using ih
    | false => simp [passed]

theorem nearestIsCased_append (near far : List Char) : nearestIsCased (near ++ far) =
    if near.all isCaseIgnorable then nearestIsCased far else nearestIsCased near := by
  simp only [nearestIsCased_eq, head?_dropWhile_append]
  exact apply_ite (Option.any isCased) ..

theorem nearestIsCased_ignorable (ignorable : part.all isCaseIgnorable = true) :
    nearestIsCased part = false := by
  have beyond := nearestIsCased_append part []
  rw [if_pos ignorable, List.append_nil] at beyond
  rw [beyond, nearestIsCased_eq, List.dropWhile_nil, List.head?_nil, Option.any_none]

theorem nearestIsCased_letter : nearestIsCased ['A'] = true := by
  have cased : isCased 'A' = true := by
    rw [isCased, casedRanges, Ranges.ofText, String.toList_ofList]
    decide +kernel
  have counts : isCaseIgnorable 'A' = false := by
    rw [isCaseIgnorable, caseIgnorableRanges, Ranges.ofText, String.toList_ofList]
    decide +kernel
  have nearest (ignorable cased : Char → Bool) (counts : ignorable 'A' = false) (has : cased 'A' = true) :
      (['A'].dropWhile ignorable).head?.any cased = true := by
    simp [counts, has]
  rw [nearestIsCased_eq]
  exact nearest _ _ counts cased

/-- A sigma that is not open takes the form that the part by itself gives it. -/
theorem lowerSigma_closed (closed : ¬ OpenSigma part) (split : part = first ++ 'Σ' :: second) :
    lowerSigma (first.reverse ++ before) (second ++ after) = lowerSigma first.reverse second := by
  unfold lowerSigma
  simp only [nearestIsCased_append, List.all_reverse]
  cases front : first.all isCaseIgnorable with
  | true =>
    -- Whatever comes before the part, a cased character behind the sigma keeps it from being final.
    have followed : nearestIsCased second = true :=
      (Bool.not_eq_false _).mp fun uncased => closed (.front split front uncased)
    cases back : second.all isCaseIgnorable with
    | true => cases (nearestIsCased_ignorable back).symm.trans followed
    | false => simp [followed]
  | false =>
    cases back : second.all isCaseIgnorable with
    | true =>
      have alone : nearestIsCased first.reverse = false :=
        (Bool.not_eq_true _).mp fun cased => closed (.back split cased back)
      simp [alone]
    | false => simp

/-! ## Searches -/

/-- A part without open sigmas is lowered alike wherever it occurs. -/
theorem occursIn_lower {text : List Char} (closed : ¬ OpenSigma part) (found : occursIn part text = true) :
    occursIn (lowerFrom [] part) (lowerFrom [] text) = true := by
  obtain ⟨before, after, whole⟩ := occursIn_iff.mp found
  have alike : lowerPart before.reverse after part = lowerFrom [] part := by
    rw [lowerFrom_eq]
    refine lowerPart_congr fun first second split => ?_
    rw [lowerSigma_closed closed split, List.append_nil, List.append_nil]
  have parts : lowerFrom [] text = lowerPart [] (part ++ after) before ++ lowerFrom [] part ++
      lowerFrom (part.reverse ++ before.reverse) after := by
    rw [← whole, List.append_assoc, lowerFrom_append, lowerFrom_append, List.append_nil, alike,
      List.append_assoc]
  exact occursIn_iff.mpr ⟨_, _, parts.symm⟩

/-- What a part has more often than a text has it cannot be found there. -/
theorem not_occursIn_of_count {text : List Char} {c : Char} (more : text.count c < part.count c) :
    occursIn part text = false := by
  refine (Bool.not_eq_true _).mp fun found => ?_
  exact absurd ((occursIn_iff.mp found).sublist.count_le c) (Nat.not_le.mpr more)

/-- A sigma that is open in front becomes final behind a letter. -/
theorem lost_behind_letter (split : part = first ++ 'Σ' :: second) (ignorable : first.all isCaseIgnorable = true)
    (uncased : nearestIsCased second = false) :
    occursIn (lowerFrom [] part) (lowerFrom [] ('A' :: part)) = false := by
  have fewer : (lowerPart ['A'] [] part).count 'σ' < (lowerPart [] [] part).count 'σ' := by
    refine count_lowerPart_lt (fun one two _ common => ?_) split ?_ ?_
    · unfold lowerSigma at common ⊢
      simp only [nearestIsCased_append, List.append_nil, List.all_reverse, nearestIsCased_letter] at common ⊢
      cases front : one.all isCaseIgnorable with
      | true =>
        have alone := nearestIsCased_ignorable (List.all_reverse.trans front)
        simp [alone]
      | false => simpa [front] using common
    · have alone := nearestIsCased_ignorable (List.all_reverse.trans ignorable)
      simp [lowerSigma, alone]
    · simp [lowerSigma, nearestIsCased_append, ignorable, nearestIsCased_letter, uncased]
  have letter : lowerFrom [] ('A' :: part) = 'a' :: lowerPart ['A'] [] part := by
    rw [lowerFrom, lowerFrom_eq]
    rfl
  refine not_occursIn_of_count (c := 'σ') ?_
  rw [letter, lowerFrom_eq]
  simpa using fewer

/-- A sigma that is open behind becomes a common one before a letter. -/
theorem lost_before_letter (split : part = first ++ 'Σ' :: second) (cased : nearestIsCased first.reverse = true)
    (ignorable : second.all isCaseIgnorable = true) :
    occursIn (lowerFrom [] part) (lowerFrom [] (part ++ ['A'])) = false := by
  have fewer : (lowerPart [] ['A'] part).count 'ς' < (lowerPart [] [] part).count 'ς' := by
    refine count_lowerPart_lt (fun one two _ final => ?_) split ?_ ?_
    · unfold lowerSigma at final ⊢
      simp only [nearestIsCased_append, List.append_nil, nearestIsCased_letter] at final ⊢
      cases back : two.all isCaseIgnorable with
      | true => simp [back] at final
      | false => simpa [back] using final
    · simp [lowerSigma, cased, nearestIsCased_ignorable ignorable]
    · simp [lowerSigma, nearestIsCased_append, ignorable, nearestIsCased_letter]
  have letter : lowerFrom [] (part ++ ['A']) = lowerPart [] ['A'] part ++ ['a'] := by
    rw [lowerFrom_append]
    rfl
  refine not_occursIn_of_count (c := 'ς') ?_
  rw [letter, lowerFrom_eq]
  simpa using fewer

/-- Lowering keeps a part in all texts that it occurs in exactly if none of its sigmas is open. -/
theorem lower_keeps_iff : (∀ text, text ≠ [] → occursIn part text = true →
      occursIn (lowerFrom [] part) (lowerFrom [] text) = true) ↔ ¬ OpenSigma part := by
  constructor
  · intro keeps opened
    cases opened with
    | front split ignorable uncased =>
      have kept := keeps ('A' :: part) (by simp) (occursIn_iff.mpr (List.suffix_cons ..).isInfix)
      cases (lost_behind_letter split ignorable uncased).symm.trans kept
    | back split cased ignorable =>
      have kept := keeps (part ++ ['A']) (by simp) (occursIn_iff.mpr (List.prefix_append ..).isInfix)
      cases (lost_before_letter split cased ignorable).symm.trans kept
  · intro closed text _ found
    exact occursIn_lower closed found

end Curation.Text
