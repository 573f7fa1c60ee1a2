import Curation.Chain.Word

/-! Texts that are taken for addresses. An address is `0x` with forty hexadecimal digits. What is
accepted is that, and the same with a line end behind it, and the line end goes into the word
that carries the address, in the place of a zero. -/
namespace Curation.Chain

open Text (isHexDigit)

variable {c : Char} {text : String} {digits : List Char}

/-! ## Digits -/

/-- A hexadecimal digit that is not a capital. -/
def IsLowDigit (c : Char) : Prop := isHexDigit c = true ∧ c.toLower = c

instance (c : Char) : Decidable (IsLowDigit c) := inferInstanceAs (Decidable (_ ∧ _))

/-- What holds of the hexadecimal digits among the ASCII characters holds of them all. -/
theorem forall_hexDigit {P : Char → Prop}
    (ascii : ∀ i : Fin 128, isHexDigit (Char.ofNat i) = true → P (Char.ofNat i))
    (hex : isHexDigit c = true) : P c := by
  have narrow : c.toNat < 128 := by
    unfold isHexDigit Text.hexValue? at hex
    simp only [Char.le_def, UInt32.le_iff_toNat_le] at hex
    have bound {d : Char} (narrow : d.toNat < 128) (below : c.val.toNat ≤ d.val.toNat) : c.toNat < 128 :=
      Nat.lt_of_le_of_lt below narrow
    split at hex
    · rename_i digit
      exact bound (by decide) digit.2
    · split at hex
      · rename_i small
        exact bound (by decide) small.2
      · split at hex
        · rename_i capital
          exact bound (by decide) capital.2
        · cases hex
  have same : Char.ofNat c.toNat = c := Char.ofNat_toNat c
  exact same ▸ ascii ⟨c.toNat, narrow⟩ (by rw [same]; exact hex)

theorem toLower_isLowDigit (hex : isHexDigit c = true) : IsLowDigit c.toLower :=
  forall_hexDigit (P := fun c => IsLowDigit c.toLower) (by decide) hex

/-! ## Addresses -/

/-- The digits of an address, in either case. -/
structure AddressDigits (digits : List Char) : Prop where
  length : digits.length = 40
  hex : ∀ c ∈ digits, isHexDigit c = true

/-- The text is `0x` with these digits. -/
structure Spells (text : String) (digits : List Char) : Prop where
  address : AddressDigits digits
  text_eq : text.toList = '0' :: 'x' :: digits

/-- The text is `0x` with these digits, and a line end. -/
structure SpellsLine (text : String) (digits : List Char) : Prop where
  address : AddressDigits digits
  text_eq : text.toList = '0' :: 'x' :: (digits ++ ['\n'])

/-- An argument of a call: sixty-four hexadecimal digits, none of them a capital. -/
structure IsWord (word : List Char) : Prop where
  length : word.length = 64
  digits : ∀ c ∈ word, IsLowDigit c

theorem IsWord.zeros_append {n : Nat} {word : List Char} (low : ∀ c ∈ word, IsLowDigit c)
    (full : n + word.length = 64) : IsWord (List.replicate n '0' ++ word) where
  length := by simpa using full
  digits := by
    simp only [List.mem_append, List.mem_replicate]
    rintro c (⟨-, rfl⟩ | inside)
    · decide
    · exact low c inside

/-- The digits of an address in the word that carries it. -/
def lowDigits (digits : List Char) : List Char := digits.map Char.toLower

theorem AddressDigits.low (address : AddressDigits digits) : ∀ c ∈ lowDigits digits, IsLowDigit c := by
  simp only [lowDigits, List.mem_map]
  rintro _ ⟨c, inside, rfl⟩
  exact toLower_isLowDigit (address.hex c inside)

theorem AddressDigits.length_low (address : AddressDigits digits) : (lowDigits digits).length = 40 := by
  rw [lowDigits, List.length_map, address.length]

/-- The digits of an address are those of one in lower case as well. -/
theorem AddressDigits.lowered (address : AddressDigits digits) : AddressDigits (lowDigits digits) :=
  ⟨address.length_low, fun c inside => (address.low c inside).1⟩

theorem AddressDigits.lowDigits_low (address : AddressDigits digits) :
    lowDigits (lowDigits digits) = lowDigits digits := by
  have unchanged : ∀ c ∈ lowDigits digits, c.toLower = id c := fun c inside => (address.low c inside).2
  rw [lowDigits, List.map_congr_left unchanged, List.map_id]

theorem isAddress_iff (text : List Char) :
    isAddress text = true ↔ ∃ digits, AddressDigits digits ∧
      (text = '0' :: 'x' :: digits ∨ text = '0' :: 'x' :: (digits ++ ['\n'])) := by
  constructor
  · intro accepted
    unfold isAddress at accepted
    split at accepted
    · rename_i rest
      simp only [Bool.and_eq_true, Bool.or_eq_true, beq_iff_eq, List.all_eq_true] at accepted
      obtain ⟨⟨length, hex⟩, tail⟩ := accepted
      have parts : rest.take 40 ++ rest.drop 40 = rest := List.take_append_drop 40 rest
      refine ⟨rest.take 40, ⟨length, hex⟩, ?_⟩
      rcases tail with none | line
      · rw [none, List.append_nil] at parts
        exact .inl (by rw [parts])
      · rw [line] at parts
        exact .inr (by rw [parts])
    · cases accepted
  · rintro ⟨digits, address, rfl | rfl⟩
    · have all : digits.take 40 = digits := List.take_of_length_le (Nat.le_of_eq address.length)
      have none : digits.drop 40 = [] := List.drop_of_length_le (Nat.le_of_eq address.length)
      simpa [isAddress, all, none, address.length] using address.hex
    · have all : (digits ++ ['\n']).take 40 = digits := List.take_left' address.length
      have line : (digits ++ ['\n']).drop 40 = ['\n'] := List.drop_left' address.length
      simpa [isAddress, all, line, address.length] using address.hex

theorem normalizeAddress_ok_iff {normal : String} :
    normalizeAddress text = .ok normal ↔
      isAddress text.toList = true ∧ normal = String.ofList (text.toList.map Char.toLower) := by
  unfold normalizeAddress
  split
  · rename_i accepted
    simp [accepted, eq_comm]
  · rename_i refused
    simp [refused]

theorem normalizeAddress_error_iff {fault : WordFault} :
    normalizeAddress text = .error fault ↔ isAddress text.toList = false ∧ fault = .invalidAddress text := by
  unfold normalizeAddress
  split
  · rename_i accepted
    simp [accepted]
  · rename_i refused
    simp [refused, eq_comm]

theorem encodeAddress_eq {normal : String} (accepted : normalizeAddress text = .ok normal) :
    encodeAddress text = .ok (padWord (normal.toList.drop 2)) := by
  rw [encodeAddress, accepted]
  rfl

theorem Spells.normal (spells : Spells text digits) :
    normalizeAddress text = .ok (String.ofList ('0' :: 'x' :: lowDigits digits)) := by
  rw [normalizeAddress_ok_iff]
  exact ⟨(isAddress_iff _).mpr ⟨digits, spells.address, .inl spells.text_eq⟩, by rw [spells.text_eq]; rfl⟩

theorem SpellsLine.normal (spells : SpellsLine text digits) :
    normalizeAddress text = .ok (String.ofList ('0' :: 'x' :: (lowDigits digits ++ ['\n']))) := by
  rw [normalizeAddress_ok_iff]
  refine ⟨(isAddress_iff _).mpr ⟨digits, spells.address, .inr spells.text_eq⟩, ?_⟩
  rw [spells.text_eq, List.map_cons, List.map_cons, List.map_append]
  rfl

/-- The word of an address: its digits in lower case behind twenty-four zeros. -/
def addressWord (digits : List Char) : List Char := List.replicate 24 '0' ++ lowDigits digits

/-- What stands in place of the word where a line end was taken for part of the address. -/
def shiftedWord (digits : List Char) : List Char := List.replicate 23 '0' ++ (lowDigits digits ++ ['\n'])

theorem AddressDigits.isWord (address : AddressDigits digits) : IsWord (addressWord digits) :=
  .zeros_append address.low (by rw [address.length_low])

theorem not_isWord_shiftedWord (digits : List Char) : ¬ IsWord (shiftedWord digits) := by
  intro word
  have low : IsLowDigit '\n' := word.digits '\n' (by simp [shiftedWord])
  exact absurd low (by decide)

theorem Spells.encode (spells : Spells text digits) : encodeAddress text = .ok (addressWord digits) := by
  rw [encodeAddress_eq spells.normal, String.toList_ofList, padWord]
  simp only [List.drop_succ_cons, List.drop_zero, spells.address.length_low]
  rfl

theorem SpellsLine.encode (spells : SpellsLine text digits) : encodeAddress text = .ok (shiftedWord digits) := by
  rw [encodeAddress_eq spells.normal, String.toList_ofList, padWord]
  simp only [List.drop_succ_cons, List.drop_zero, List.length_append, spells.address.length_low]
  rfl

/-- A text is taken for an address if it is one, or if it is one but for a line end behind it; every other
text is refused as no address. An address is carried by a word, its digits in lower case behind
twenty-four zeros. With a line end behind it, there is a zero less and the line end is what the word
ends with, so that it is none. -/
theorem line_end_passes_for_address (text : String) :
    ((∃ normal, normalizeAddress text = .ok normal) ↔ ∃ digits, Spells text digits ∨ SpellsLine text digits) ∧
    (∀ fault, normalizeAddress text = .error fault → fault = .invalidAddress text) ∧
    (∀ digits, Spells text digits →
      normalizeAddress text = .ok (String.ofList ('0' :: 'x' :: digits.map Char.toLower)) ∧
      encodeAddress text = .ok (List.replicate 24 '0' ++ digits.map Char.toLower) ∧
      IsWord (List.replicate 24 '0' ++ digits.map Char.toLower)) ∧
    ∀ digits, SpellsLine text digits →
      normalizeAddress text = .ok (String.ofList ('0' :: 'x' :: (digits.map Char.toLower ++ ['\n']))) ∧
      encodeAddress text = .ok (List.replicate 23 '0' ++ (digits.map Char.toLower ++ ['\n'])) ∧
      ¬ IsWord (List.replicate 23 '0' ++ (digits.map Char.toLower ++ ['\n'])) := by
  refine ⟨⟨?_, ?_⟩, fun fault refused => (normalizeAddress_error_iff.mp refused).2, ?_, ?_⟩
  · rintro ⟨normal, accepted⟩
    obtain ⟨digits, address, plain | line⟩ := (isAddress_iff _).mp (normalizeAddress_ok_iff.mp accepted).1
    · exact ⟨digits, .inl ⟨address, plain⟩⟩
    · exact ⟨digits, .inr ⟨address, line⟩⟩
  · rintro ⟨digits, spells | spells⟩
    · exact ⟨_, spells.normal⟩
    · exact ⟨_, spells.normal⟩
  · exact fun digits spells => ⟨spells.normal, spells.encode, spells.address.isWord⟩
  · exact fun digits spells => ⟨spells.normal, spells.encode, not_isWord_shiftedWord digits⟩

/-- A line end behind the address of a contract is kept. -/
theorem contract_with_line_end_is_accepted :
    let text := "0x4ed4e862860bed51a9570b96d89af5e1b0efefed\n"
    normalizeAddress text = .ok text ∧
      ∀ word, encodeAddress text = .ok word → ¬ IsWord word := by
  intro text
  obtain ⟨-, -, -, line⟩ := line_end_passes_for_address text
  let digits := "4ed4e862860bed51a9570b96d89af5e1b0efefed".toList
  have spells : SpellsLine text digits := ⟨⟨by decide, List.all_eq_true.mp (by decide)⟩, by decide⟩
  obtain ⟨normal, encoded, malformed⟩ := line digits spells
  refine ⟨normal.trans ?_, fun word here => ?_⟩
  · exact congrArg Except.ok (String.toList_inj.mp (by decide +kernel))
  · cases encoded.symm.trans here
    exact malformed

end Curation.Chain
