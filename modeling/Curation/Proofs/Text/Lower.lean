import Curation.Text.Case

/-! Lowering a text a second time changes nothing. What a table entry makes of a character is
left alone by every entry, so a text that was lowered holds settled characters only. -/
namespace Curation.Text

/-- What a search finds is an entry that holds the code point. -/
theorem caseRun?_some {runs : Array CaseRun} {code fuel low high : Nat} {run : CaseRun}
    (found : caseRun? runs code fuel low high = some run) :
    run ∈ runs.toList ∧ run.first ≤ code ∧ code ≤ run.last ∧ (code - run.first) % run.step = 0 := by
  induction fuel generalizing low high with
  | zero => cases found
  | succ fuel ih =>
    simp only [caseRun?] at found
    split at found
    · split at found
      · cases found
      · rename_i here
        split at found
        · exact ih found
        · split at found
          · exact ih found
          · split at found
            · cases found
              exact ⟨Array.mem_toList_iff.mpr (Array.mem_of_getElem? here), by omega, by omega, by assumption⟩
            · cases found
    · cases found

/-! ## Settled characters -/

/-- Whether a code point is a character that a table leaves as it is. -/
def leaves (runs : Array CaseRun) (code : Nat) : Bool :=
  (Char.ofNat code).toNat == code && code != 'Σ'.toNat && code != 'İ'.toNat &&
    if code < 128 then (Char.ofNat code).toLower == Char.ofNat code
    else (caseRun? runs code (runs.size + 1) 0 runs.size).isNone

/-- What lowering makes of the two characters that no table covers. -/
def special : List Char := ['ς', 'σ', 'i', '\u0307']

/-- Whether a table leaves everything alone that lowering makes of characters. -/
def leavesResults (runs : Array CaseRun) : Bool :=
  special.all (fun c => leaves runs c.toNat) &&
    runs.toList.all fun run => (List.range (run.last - run.first + 1)).all fun offset =>
      offset % run.step != 0 || leaves runs (run.lower + offset)

theorem caseRuns_leavesResults : leavesResults caseRuns = true := by
  -- The kernel reads the table off a list of characters much faster than off a text.
  rw [caseRuns, caseText, String.toList_ofList]
  decide +kernel

/-- Characters that lowering leaves as they are, wherever they stand. -/
structure Settled (c : Char) : Prop where
  lowered : lowerChar c = c
  sigma : c ≠ 'Σ'
  dotted : c ≠ 'İ'

theorem lowerChar_of_none {c : Char} (wide : ¬ c.toNat < 128)
    (none : caseRun? caseRuns c.toNat (caseRuns.size + 1) 0 caseRuns.size = none) : lowerChar c = c := by
  rw [lowerChar, if_neg wide, none]

theorem settled_of_leaves {code : Nat} (left : leaves caseRuns code = true) : Settled (Char.ofNat code) := by
  simp only [leaves, Bool.and_eq_true, beq_iff_eq, bne_iff_ne] at left
  obtain ⟨⟨⟨same, sigma⟩, dotted⟩, fixed⟩ := left
  refine ⟨?_, fun equal => sigma (by rw [← same, equal]), fun equal => dotted (by rw [← same, equal])⟩
  split at fixed
  · rename_i narrow
    rw [lowerChar, if_pos (by rwa [same])]
    exact eq_of_beq fixed
  · rename_i wide
    have none := Option.isNone_iff_eq_none.mp fixed
    rw [← same] at none wide
    exact lowerChar_of_none wide none

theorem special_settled {c : Char} (member : c ∈ special) : Settled c := by
  have all := caseRuns_leavesResults
  simp only [leavesResults, Bool.and_eq_true, List.all_eq_true] at all
  rw [← Char.ofNat_toNat c]
  exact settled_of_leaves (all.1 c member)

theorem toLower_settled {c : Char} (narrow : c.toNat < 128) : Settled c.toLower := by
  have all : ∀ n : Fin 128, (Char.ofNat n).toLower.toNat < 128 ∧
      (Char.ofNat n).toLower.toLower = (Char.ofNat n).toLower := by decide
  obtain ⟨still, again⟩ := all ⟨c.toNat, narrow⟩
  rw [Char.ofNat_toNat] at still again
  refine ⟨by rw [lowerChar, if_pos still, again], ?_, ?_⟩ <;>
  · intro equal
    rw [equal] at still
    exact absurd still (by decide)

theorem lowerChar_settled {c : Char} (sigma : c ≠ 'Σ') (dotted : c ≠ 'İ') : Settled (lowerChar c) := by
  by_cases narrow : c.toNat < 128
  · rw [lowerChar, if_pos narrow]
    exact toLower_settled narrow
  cases found : caseRun? caseRuns c.toNat (caseRuns.size + 1) 0 caseRuns.size with
  | none =>
    have same := lowerChar_of_none narrow found
    rw [same]
    exact ⟨same, sigma, dotted⟩
  | some run =>
    obtain ⟨member, low, high, step⟩ := caseRun?_some found
    rw [lowerChar, if_neg narrow, found]
    have all := caseRuns_leavesResults
    simp only [leavesResults, Bool.and_eq_true, List.all_eq_true, List.mem_range, Bool.or_eq_true,
      bne_iff_ne] at all
    have left := all.2 run member (c.toNat - run.first) (by omega)
    exact settled_of_leaves (left.resolve_left fun other => other step)

theorem lowerFrom_settled {before text : List Char} : ∀ c ∈ lowerFrom before text, Settled c := by
  induction text generalizing before with
  | nil => nofun
  | cons c rest ih =>
    intro d inside
    rw [lowerFrom] at inside
    rcases List.mem_append.mp inside with own | later
    · split at own
      · rw [List.mem_singleton] at own
        subst own
        apply special_settled
        split <;> simp [special]
      · split at own
        · exact special_settled (List.mem_of_mem_drop (i := 2) own)
        · rename_i sigma dotted
          rw [List.mem_singleton.mp own]
          exact lowerChar_settled sigma dotted
    · exact ih d later

theorem lowerFrom_of_settled {before text : List Char} (settled : ∀ c ∈ text, Settled c) :
    lowerFrom before text = text := by
  induction text generalizing before with
  | nil => rfl
  | cons c rest ih =>
    have own := settled c (List.mem_cons_self ..)
    rw [lowerFrom, ih fun d later => settled d (List.mem_cons_of_mem _ later)]
    simp [own.sigma, own.dotted, own.lowered]

theorem lower_lower (text : String) : lower (lower text) = lower text := by
  rw [lower, lower, String.toList_ofList, lowerFrom_of_settled lowerFrom_settled]

/-- Lowering makes something of every character. -/
theorem lower_ne_empty {text : String} (full : text ≠ "") : lower text ≠ "" := by
  intro none
  have none : lowerFrom [] text.toList = [] := String.ofList_eq_empty_iff.mp none
  cases chars : text.toList with
  | nil => exact full (String.toList_eq_nil_iff.mp chars)
  | cons c rest =>
    rw [chars, lowerFrom] at none
    have lowered := (List.append_eq_nil_iff.mp none).1
    split at lowered
    · cases lowered
    · split at lowered <;> cases lowered

end Curation.Text
