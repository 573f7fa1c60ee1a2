import Curation.Proofs.Chain.Addresses
import Curation.Proofs.Text.Whole

/-! Words and what they carry. The word of a number reads back as the number, and the word of an
address as the address in lower case. A number below the 256th power of two has a word of the
right length. -/
namespace Curation.Chain

open Text (isHexDigit Plain)

variable {c : Char} {text : String} {digits : List Char}

/-! ## Digits of a number -/

/-- The number that a hexadecimal digit stands for. -/
def hexNumber (c : Char) : Nat := (Text.hexValue? c).getD 0

/-- The number that hexadecimal digits write. -/
def hexNumbers (digits : List Char) : Nat := digits.foldl (fun n c => 16 * n + hexNumber c) 0

theorem plain_of_isHexDigit (hex : isHexDigit c = true) : Plain 16 hexNumber c := by
  have plain : Text.baseDigit? 16 c = some (hexNumber c) ∧ Text.isMargin c = false ∧
      (c ≠ '-' ∧ c ≠ '+') ∧ c ≠ '_' :=
    forall_hexDigit (P := fun c => Text.baseDigit? 16 c = some (hexNumber c) ∧
      Text.isMargin c = false ∧ (c ≠ '-' ∧ c ≠ '+') ∧ c ≠ '_') (by decide) hex
  obtain ⟨value, inner, unsigned, bare⟩ := plain
  exact ⟨value, inner, unsigned, bare⟩

theorem digitChar_low {n : Nat} (small : n < 16) : IsLowDigit n.digitChar ∧ hexNumber n.digitChar = n := by
  have all : ∀ m : Fin 16, IsLowDigit m.val.digitChar ∧ hexNumber m.val.digitChar = m := by decide
  exact all ⟨n, small⟩

theorem toDigits_low (n : Nat) : ∀ c ∈ Nat.toDigits 16 n, IsLowDigit c := by
  induction n using Nat.strong_induction_on with
  | _ n ih =>
    intro c inside
    rw [Nat.toDigits_eq_if (by decide)] at inside
    split at inside
    · rename_i small
      cases List.mem_singleton.mp inside
      exact (digitChar_low small).1
    · rcases List.mem_append.mp inside with front | last
      · exact ih (n / 16) (by omega) c front
      · cases List.mem_singleton.mp last
        exact (digitChar_low (Nat.mod_lt n (by decide))).1

theorem hexNumbers_toDigits (n : Nat) : hexNumbers (Nat.toDigits 16 n) = n := by
  induction n using Nat.strong_induction_on with
  | _ n ih =>
    rw [Nat.toDigits_eq_if (by decide)]
    split
    · rename_i small
      simpa [hexNumbers] using (digitChar_low small).2
    · have front : hexNumbers (Nat.toDigits 16 (n / 16)) = n / 16 := ih (n / 16) (by omega)
      have last : hexNumber (n % 16).digitChar = n % 16 := (digitChar_low (Nat.mod_lt n (by decide))).2
      unfold hexNumbers at front ⊢
      rw [List.foldl_append, front, List.foldl_cons, List.foldl_nil, last]
      exact Nat.div_add_mod n 16

theorem hexNumbers_zeros_append (n : Nat) (digits : List Char) :
    hexNumbers (List.replicate n '0' ++ digits) = hexNumbers digits := by
  have zero : hexNumber '0' = 0 := by decide
  induction n with
  | zero => rfl
  | succ n ih =>
    unfold hexNumbers at ih ⊢
    rw [List.replicate_succ, List.cons_append, List.foldl_cons, zero]
    exact ih

/-! ## The word of a number -/

theorem encodeNumber_natCast (n : Nat) :
    encodeNumber n = List.replicate (64 - (Nat.toDigits 16 n).length) '0' ++ Nat.toDigits 16 n := by
  have positive : ¬ (n : Int) < 0 := Int.not_lt.mpr (Int.natCast_nonneg n)
  rw [encodeNumber, if_neg positive, Int.natAbs_natCast]
  rfl

theorem encodeNumber_low (n : Nat) : ∀ c ∈ encodeNumber n, IsLowDigit c := by
  intro c inside
  rw [encodeNumber_natCast, List.mem_append, List.mem_replicate] at inside
  rcases inside with ⟨-, rfl⟩ | digit
  · decide
  · exact toDigits_low n c digit

theorem encodeNumber_ne_nil (n : Nat) : encodeNumber n ≠ [] := by
  rw [encodeNumber_natCast]
  exact List.append_ne_nil_of_right_ne_nil _ Nat.toDigits_ne_nil

theorem hexNumbers_encodeNumber (n : Nat) : hexNumbers (encodeNumber n) = n := by
  rw [encodeNumber_natCast, hexNumbers_zeros_append, hexNumbers_toDigits]

/-- A number that fits into 256 bits has a word. -/
theorem encodeNumber_isWord {n : Nat} (small : n < 2 ^ 256) : IsWord (encodeNumber n) := by
  have width : (Nat.toDigits 16 n).length ≤ 64 :=
    (Nat.length_toDigits_le_iff (by decide) (by decide)).mpr (small.trans_eq (by norm_num))
  rw [encodeNumber_natCast]
  exact .zeros_append (toDigits_low n) (by omega)

/-- Digits behind the mark of base sixteen are read as the number that they write. -/
theorem readWhole?_marked (hex : ∀ c ∈ digits, isHexDigit c = true) (some_digit : digits ≠ []) :
    Text.readWhole? 16 ('0' :: 'x' :: digits) = some (hexNumbers digits) := by
  have plain : ∀ c ∈ digits, Plain 16 hexNumber c := fun c inside => plain_of_isHexDigit (hex c inside)
  have trimmed : Text.trimMargin ('0' :: 'x' :: digits) = '0' :: 'x' :: digits := by
    refine Text.trimMargin_inner fun c inside => ?_
    rcases List.mem_cons.mp inside with rfl | inside
    · decide
    · rcases List.mem_cons.mp inside with rfl | inside
      · decide
      · exact (plain c inside).inner
  have unmarked : Text.dropBaseMark 16 ('0' :: 'x' :: digits) = digits := by
    unfold Text.dropBaseMark
    split
    · rename_i same
      cases same
      exact absurd rfl (plain '_' (.head _)).bare
    · rename_i same
      cases same
      rfl
    · rename_i other
      exact absurd rfl (other 'x' digits rfl)
  have signed : Text.takeSign ('0' :: 'x' :: digits) = (false, '0' :: 'x' :: digits) := rfl
  have read : Text.readMagnitude 16 digits = some (hexNumbers digits) :=
    Text.readMagnitude_plain plain some_digit
  simp [Text.readWhole?, trimmed, signed, unmarked, read]

/-- An answer that writes a number in hexadecimal digits is that number. -/
theorem decodeNumber_digits {answer : String} (text_eq : answer.toList = '0' :: 'x' :: digits)
    (hex : ∀ c ∈ digits, isHexDigit c = true) (some_digit : digits ≠ []) :
    decodeNumber answer = .ok (hexNumbers digits) := by
  have marked : answer ≠ "0x" := by
    rintro rfl
    exact some_digit (List.cons.inj (List.cons.inj text_eq).2).2.symm
  have full : answer ≠ "" := by
    rintro rfl
    cases text_eq
  simp [decodeNumber, marked, full, text_eq, readWhole?_marked hex some_digit]

/-- The answer that has this word and nothing else. -/
def answerOf (word : List Char) : String := "0x" ++ String.ofList word

theorem toList_answerOf (word : List Char) : (answerOf word).toList = '0' :: 'x' :: word := by
  simp [answerOf]

theorem decodeNumber_encodeNumber (n : Nat) : decodeNumber (answerOf (encodeNumber n)) = .ok n := by
  have hex : ∀ c ∈ encodeNumber n, isHexDigit c = true := fun c inside => (encodeNumber_low n c inside).1
  rw [decodeNumber_digits (toList_answerOf _) hex (encodeNumber_ne_nil n), hexNumbers_encodeNumber]

/-! ## The word of an address -/

/-- Of hexadecimal digits, the lower case of a text takes one after the other. -/
theorem lowerFrom_hex (hex : ∀ c ∈ digits, isHexDigit c = true) (before : List Char) :
    Text.lowerFrom before digits = lowDigits digits := by
  induction digits generalizing before with
  | nil => rfl
  | cons c rest ih =>
    have single : c ≠ 'Σ' ∧ c ≠ 'İ' ∧ Text.lowerChar c = c.toLower :=
      forall_hexDigit (P := fun c => c ≠ 'Σ' ∧ c ≠ 'İ' ∧ Text.lowerChar c = c.toLower)
        (by decide) (hex c (.head _))
    obtain ⟨sigma, dotted, lowered⟩ := single
    simp only [Text.lowerFrom, sigma, dotted, if_false, lowered, List.singleton_append, lowDigits, List.map_cons]
    rw [ih fun other inside => hex other (.tail _ inside)]
    rfl

theorem Spells.lower (spells : Spells text digits) :
    Text.lower text = String.ofList ('0' :: 'x' :: lowDigits digits) := by
  have marked : Text.lowerFrom [] ('0' :: 'x' :: digits) = '0' :: 'x' :: Text.lowerFrom ['x', '0'] digits := rfl
  rw [Text.lower, spells.text_eq, marked, lowerFrom_hex spells.address.hex]

/-- The owner in an answer that ends with the digits of an address is that address, in lower case. -/
theorem decodeOwner_digits {answer : String} (start : List Char) (address : AddressDigits digits)
    (text_eq : answer.toList = start ++ digits) :
    decodeOwner answer = String.ofList ('0' :: 'x' :: lowDigits digits) := by
  have last : answer.toList.drop (answer.toList.length - 40) = digits := by
    rw [text_eq, List.length_append, address.length, Nat.add_sub_cancel]
    exact List.drop_left' rfl
  have text : decodeOwner answer =
      "0x" ++ Text.lower (String.ofList (answer.toList.drop (answer.toList.length - 40))) := rfl
  rw [text, last, Text.lower, String.toList_ofList, lowerFrom_hex address.hex]
  exact String.toList_inj.mp (by simp)

end Curation.Chain
