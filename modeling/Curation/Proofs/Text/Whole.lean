import Curation.Text.Whole
import Curation.Proofs.Json.Numbers

/-! Whole numbers written out and read back. A number that does not have too many digits is read
from its own text, which is a sign and digits, without blanks or underscores. -/
namespace Curation.Text

/-- A number with no more digits than a text of one may have. -/
def IsShort (n : Int) : Prop := (Nat.toDigits 10 n.natAbs).length ≤ mostDigits

instance (n : Int) : Decidable (IsShort n) := inferInstanceAs (Decidable (_ ≤ _))

variable {base : Nat} {digit : Char → Nat} {c : Char} {digits : List Char}

/-- What a digit is to the reader of a whole number. -/
structure Plain (base : Nat) (digit : Char → Nat) (c : Char) : Prop where
  value : baseDigit? base c = some (digit c)
  inner : isMargin c = false
  unsigned : c ≠ '-' ∧ c ≠ '+'
  bare : c ≠ '_'

private theorem plain_of_isDigit (isDigit : Json.isDigit c = true) :
    Plain 10 (fun c => c.toNat - '0'.toNat) c := by
  have ten : ∀ i : Fin 10, baseDigit? 10 (Char.ofNat (48 + i)) = some i.val ∧
      isMargin (Char.ofNat (48 + i)) = false ∧ (Char.ofNat (48 + i) ≠ '-' ∧ Char.ofNat (48 + i) ≠ '+') ∧
      Char.ofNat (48 + i) ≠ '_' ∧ (Char.ofNat (48 + i)).toNat - 48 = i.val := by decide
  have bounds : 48 ≤ c.toNat ∧ c.toNat ≤ 57 := by
    simpa [Json.isDigit, Char.le_def, UInt32.le_iff_toNat_le] using isDigit
  have same : Char.ofNat (48 + (c.toNat - 48)) = c := by
    rw [Nat.add_sub_cancel' bounds.1, Char.ofNat_toNat]
  obtain ⟨value, inner, unsigned, bare, number⟩ := ten ⟨c.toNat - 48, by omega⟩
  simp only [same] at value inner unsigned bare
  exact ⟨value, inner, unsigned, bare⟩

private theorem readDigits_plain (plain : ∀ c ∈ digits, Plain base digit c) (value : Nat) :
    readDigits base value digits = some (digits.foldl (fun n c => base * n + digit c) value) := by
  induction digits generalizing value with
  | nil => rfl
  | cons c rest ih =>
    have first := plain c (.head _)
    rw [readDigits, first.value]
    · exact ih (fun other member => plain other (.tail _ member)) _
    · exact fun same _ => first.bare same
    · exact fun _ _ same _ => first.bare same

/-- What has nothing to drop loses nothing at its ends. -/
theorem dropEnds_inner {drops : Char → Bool} {text : List Char} (inner : ∀ c ∈ text, drops c = false) :
    ((text.dropWhile drops).reverse.dropWhile drops).reverse = text := by
  have kept {text : List Char} (inner : ∀ c ∈ text, drops c = false) : text.dropWhile drops = text := by
    cases text with
    | nil => rfl
    | cons c rest => simp [inner c (.head _)]
  rw [kept inner, kept (by simpa using inner), List.reverse_reverse]

/-- A text that has no blanks has none to lose. -/
theorem trimMargin_inner {text : List Char} (inner : ∀ c ∈ text, isMargin c = false) :
    trimMargin text = text := dropEnds_inner inner

theorem trimBlanks_inner {text : List Char} (inner : ∀ c ∈ text, isBlank c = false) :
    trimBlanks text = text := dropEnds_inner inner

/-- Digits have no sign. -/
theorem takeSign_plain (plain : ∀ c ∈ digits, Plain base digit c) : takeSign digits = (false, digits) := by
  cases digits with
  | nil => rfl
  | cons c rest =>
    have first := plain c (.head _)
    rw [takeSign]
    · exact fun _ same => first.unsigned.1 (List.cons.inj same).1
    · exact fun _ same => first.unsigned.2 (List.cons.inj same).1

/-- Digits make up a magnitude. -/
theorem readMagnitude_plain (plain : ∀ c ∈ digits, Plain base digit c) (some_digit : digits ≠ []) :
    readMagnitude base digits = some (digits.foldl (fun n c => base * n + digit c) 0) := by
  cases digits with
  | nil => exact absurd rfl some_digit
  | cons c rest =>
    rw [readMagnitude]
    · exact readDigits_plain plain 0
    · exact fun same => nomatch same
    · exact fun _ same => (plain c (.head _)).bare (List.cons.inj same).1

/-- A whole number is read from its own text, unless it has too many digits. -/
theorem readWhole?_toString (n : Int) (short : IsShort n) : readWhole? 10 (toString n).toList = some n := by
  let digits := Nat.toDigits 10 n.natAbs
  have plain : ∀ c ∈ digits, Plain 10 (fun c => c.toNat - '0'.toNat) c :=
    fun c member => plain_of_isDigit (Json.isDigit_of_toDigits n.natAbs c member)
  have value : digits.foldl (fun n c => 10 * n + (c.toNat - '0'.toNat)) 0 = n.natAbs :=
    Json.digitsValue_toDigits n.natAbs
  have some_digit : digits ≠ [] := Nat.toDigits_ne_nil
  have counted : digits.filter (· ≠ '_') = digits :=
    List.filter_eq_self.mpr fun c member => by simpa using (plain c member).bare
  have few : ¬ mostDigits < (digits.filter (· ≠ '_')).length := by
    rw [counted]
    exact Nat.not_lt.mpr short
  have trimmed : trimMargin (toString n).toList = (toString n).toList := by
    refine trimMargin_inner fun c member => ?_
    rw [Json.Numeral.toList_toString] at member
    split at member
    · rcases List.mem_cons.mp member with rfl | digit
      · decide
      · exact (plain c digit).inner
    · exact (plain c member).inner
  have signed : takeSign (toString n).toList = (decide (n < 0), digits) := by
    rw [Json.Numeral.toList_toString]
    by_cases negative : n < 0
    · simp only [negative, decide_true, if_true]
      rfl
    · simp only [negative, decide_false, Bool.false_eq_true, if_false]
      exact takeSign_plain plain
  rw [readWhole?, trimmed, signed]
  have read : readMagnitude 10 (dropBaseMark 10 digits) = some n.natAbs := by
    rw [← value]
    exact readMagnitude_plain plain some_digit
  simp only [few, and_false, if_false, read]
  show some _ = some n
  by_cases negative : n < 0
  · simp only [negative, decide_true, if_true]
    congr 1
    omega
  · simp only [negative, decide_false, Bool.false_eq_true, if_false]
    congr 1
    omega

end Curation.Text
