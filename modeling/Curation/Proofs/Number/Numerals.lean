import Curation.Proofs.Number.Decimal
import Curation.Proofs.Text.Whole

/-! Amounts read from their texts. A numeral has a sign, digits on both sides of a point and a power of
ten, most of which may be missing. Its text is read part by part, as exactly the amount that it
writes, and the text of a whole number is such a numeral. -/
namespace Curation.Decimal

/-- An amount as it is written, with the sign first, if there is one. A power of ten comes with its mark
and has a sign of its own. -/
structure Numeral where
  sign : Option Bool
  whole : List Char
  fraction : Option (List Char)
  power : Option (Char × Option Bool × List Char)

namespace Numeral

variable {numeral : Numeral} {sign : Option Bool} {digits rest : List Char} {c : Char}

/-! ## Texts -/

def signText : Option Bool → List Char
  | none => []
  | some negative => [if negative then '-' else '+']

def pointText : Option (List Char) → List Char
  | none => []
  | some digits => '.' :: digits

def powerText : Option (Char × Option Bool × List Char) → List Char
  | none => []
  | some (mark, sign, digits) => mark :: (signText sign ++ digits)

def body (numeral : Numeral) : List Char :=
  numeral.whole ++ (pointText numeral.fraction ++ powerText numeral.power)

def text (numeral : Numeral) : String := String.ofList (signText numeral.sign ++ numeral.body)

/-- There is a digit on one side of the point, and one in the power if there is a power. -/
structure Sound (numeral : Numeral) : Prop where
  whole : ∀ c ∈ numeral.whole, isDigit c = true
  fraction : ∀ c ∈ numeral.fraction.getD [], isDigit c = true
  given : numeral.whole ++ numeral.fraction.getD [] ≠ []
  power : ∀ mark sign digits, numeral.power = some (mark, sign, digits) →
    (mark = 'e' ∨ mark = 'E') ∧ digits ≠ [] ∧ ∀ c ∈ digits, isDigit c = true

/-! ## Values -/

def isNegative (sign : Option Bool) : Bool := sign == some true

/-- The exponent that the power of a numeral writes. -/
def shift (numeral : Numeral) : Int :=
  match numeral.power with
  | none => 0
  | some (_, sign, digits) => if isNegative sign then -(number digits : Int) else number digits

/-- What a numeral stands for: its digits as they stand around the point, times its power of ten. -/
def value (numeral : Numeral) : ℚ :=
  let fraction := numeral.fraction.getD []
  signed (isNegative numeral.sign)
    ((number numeral.whole + number fraction / 10 ^ fraction.length) * 10 ^ numeral.shift)

/-- All digits of a numeral, without its point. -/
def coefficient (numeral : Numeral) : Nat := number (numeral.whole ++ numeral.fraction.getD [])

/-- Where the last digit of a numeral stands. -/
def exponent (numeral : Numeral) : Int := numeral.shift - (numeral.fraction.getD []).length

/-- The first and the last digit stand where digits can be written. -/
structure Writable (numeral : Numeral) : Prop where
  finest : finestExponent ≤ numeral.exponent
  widest : numeral.exponent + Decimal.digits numeral.coefficient - 1 ≤ widestExponent

theorem number_append (front back : List Char) :
    number (front ++ back) = number front * 10 ^ back.length + number back := by
  unfold number
  rw [← Nat.ofDigitChars_eq_foldl, ← Nat.ofDigitChars_eq_foldl, ← Nat.ofDigitChars_eq_foldl,
    Nat.ofDigitChars_append, Nat.ofDigitChars_eq_ofDigitChars_zero, Nat.mul_comm]

theorem value_eq (numeral : Numeral) :
    numeral.value = signed (isNegative numeral.sign) (size numeral.coefficient numeral.exponent) := by
  have scale : (10 : ℚ) ^ (numeral.fraction.getD []).length ≠ 0 := by positivity
  unfold value size coefficient exponent
  rw [number_append, zpow_sub₀ (by norm_num), zpow_natCast]
  push_cast
  congr 1
  field_simp

/-! ## Reading -/

/-- What a numeral is made of. -/
def Written (c : Char) : Prop := isDigit c = true ∨ c ∈ ['-', '+', '.', 'e', 'E']

/-- What holds of the ten digits holds of every digit. -/
theorem forall_isDigit {P : Char → Prop} (all : ∀ i : Fin 10, P (Char.ofNat (48 + i)))
    (digit : isDigit c = true) : P c := by
  have bounds : 48 ≤ c.toNat ∧ c.toNat ≤ 57 := by
    simpa [isDigit, Char.le_def, UInt32.le_iff_toNat_le] using digit
  have same : Char.ofNat (48 + (c.toNat - 48)) = c := by
    rw [Nat.add_sub_cancel' bounds.1, Char.ofNat_toNat]
  exact same ▸ all ⟨c.toNat - 48, by omega⟩

theorem Written.plain (written : Written c) : Text.isBlank c = false ∧ c ≠ '_' ∧ c.toNat < 128 := by
  rcases written with digit | other
  · exact forall_isDigit (P := fun c => Text.isBlank c = false ∧ c ≠ '_' ∧ c.toNat < 128)
      (by decide) digit
  · simp only [List.mem_cons, List.not_mem_nil, or_false] at other
    rcases other with rfl | rfl | rfl | rfl | rfl <;> decide

theorem signText_written (sign : Option Bool) : ∀ c ∈ signText sign, Written c := by
  cases sign with
  | none => nofun
  | some negative => cases negative <;> simp [signText, Written]

theorem Sound.written (sound : numeral.Sound) : ∀ c ∈ numeral.text.toList, Written c := by
  have point : ∀ c ∈ pointText numeral.fraction, Written c := by
    have digits := sound.fraction
    cases fraction : numeral.fraction with
    | none => nofun
    | some _ =>
      rw [fraction] at digits
      exact List.forall_mem_cons.mpr ⟨.inr (by decide), fun c inside => .inl (digits c inside)⟩
  have power : ∀ c ∈ powerText numeral.power, Written c := by
    cases power : numeral.power with
    | none => nofun
    | some parts =>
      obtain ⟨mark, sign, digits⟩ := parts
      obtain ⟨marks, -, all⟩ := sound.power mark sign digits power
      refine List.forall_mem_cons.mpr ⟨.inr (by rcases marks with rfl | rfl <;> decide), ?_⟩
      exact List.forall_mem_append.mpr ⟨signText_written sign, fun c inside => .inl (all c inside)⟩
  rw [text, String.toList_ofList]
  exact List.forall_mem_append.mpr ⟨signText_written _, List.forall_mem_append.mpr
    ⟨fun c inside => .inl (sound.whole c inside), List.forall_mem_append.mpr ⟨point, power⟩⟩⟩

/-- Text that can be in a numeral is read as it stands. -/
theorem plainText?_written {text : List Char} (written : ∀ c ∈ text, Written c) :
    plainText? text = some text := by
  have bare : text.filter (· ≠ '_') = text :=
    List.filter_eq_self.mpr fun c inside => by simpa using (written c inside).plain.2.1
  rw [plainText?, Text.trimBlanks_inner fun c inside => (written c inside).plain.1, bare]
  clear bare
  induction text with
  | nil => rfl
  | cons c rest ih =>
    rw [List.mapM_cons, if_pos (written c (.head _)).plain.2.2,
      ih fun other inside => written other (.tail _ inside)]
    rfl

/-- Neither a digit nor a point is a sign, or the first letter of a word. -/
theorem lead_other (lead : isDigit c = true ∨ c = '.') :
    (c ≠ '-' ∧ c ≠ '+') ∧ c.toLower ≠ 'i' ∧ c.toLower ≠ 'n' ∧ c.toLower ≠ 's' := by
  rcases lead with digit | rfl
  · exact forall_isDigit (P := fun c => (c ≠ '-' ∧ c ≠ '+') ∧ c.toLower ≠ 'i' ∧ c.toLower ≠ 'n' ∧
      c.toLower ≠ 's') (by decide) digit
  · decide

theorem takeSign_signText (sign : Option Bool) {text : List Char}
    (unsigned : ∀ c ∈ text.head?, c ≠ '-' ∧ c ≠ '+') :
    Text.takeSign (signText sign ++ text) = (isNegative sign, text) := by
  cases sign with
  | some negative => cases negative <;> rfl
  | none =>
    cases text with
    | nil => rfl
    | cons c rest =>
      obtain ⟨minus, plus⟩ := unsigned c rfl
      rw [signText, List.nil_append, Text.takeSign]
      · rfl
      · exact fun _ same => minus (List.cons.inj same).1
      · exact fun _ same => plus (List.cons.inj same).1

/-- A numeral without its sign begins with a digit or a point. -/
theorem Sound.lead (sound : numeral.Sound) :
    ∃ c rest, numeral.body = c :: rest ∧ (isDigit c = true ∨ c = '.') := by
  unfold body
  have digits := sound.whole
  cases whole : numeral.whole with
  | cons c rest =>
    rw [whole] at digits
    exact ⟨c, _, List.cons_append .., .inl (digits c (.head _))⟩
  | nil =>
    cases fraction : numeral.fraction with
    | none => exact absurd (by rw [whole, fraction]; rfl) sound.given
    | some digits => exact ⟨'.', _, rfl, .inr rfl⟩

/-- What may not follow digits for these to be all. -/
def Ends (rest : List Char) : Prop := ∀ c ∈ rest.head?, isDigit c = false

theorem span_digits (all : ∀ c ∈ digits, isDigit c = true) (ends : Ends rest) :
    (digits ++ rest).takeWhile isDigit = digits ∧ (digits ++ rest).dropWhile isDigit = rest := by
  rw [List.takeWhile_append_of_pos all, List.dropWhile_append_of_pos all]
  cases rest with
  | nil => simp
  | cons c rest => simp [ends c rfl]

theorem Sound.reads_power (sound : numeral.Sound) :
    Decimal.exponent? (powerText numeral.power) = some numeral.shift := by
  unfold shift
  cases power : numeral.power with
  | none => rfl
  | some parts =>
    obtain ⟨mark, sign, digits⟩ := parts
    obtain ⟨marks, some_digit, all⟩ := sound.power mark sign digits power
    have unsigned : ∀ c ∈ digits.head?, c ≠ '-' ∧ c ≠ '+' := by
      intro c first
      exact (lead_other (.inl (all c (List.mem_of_mem_head? first)))).1
    have kept : (digits.isEmpty || !digits.all isDigit) = false := by
      simpa using ⟨some_digit, all⟩
    rw [powerText, Decimal.exponent?, if_pos marks, takeSign_signText sign unsigned]
    simp only [kept]
    rfl

theorem Sound.ends_power (sound : numeral.Sound) :
    Ends (powerText numeral.power) ∧ ∀ rest, powerText numeral.power ≠ '.' :: rest := by
  cases power : numeral.power with
  | none => exact ⟨nofun, nofun⟩
  | some parts =>
    obtain ⟨mark, sign, digits⟩ := parts
    obtain ⟨rfl | rfl, -, -⟩ := sound.power mark sign digits power
    · exact ⟨by simp [Ends, powerText, isDigit], by simp [powerText]⟩
    · exact ⟨by simp [Ends, powerText, isDigit], by simp [powerText]⟩

/-- What is made of the parts of an amount. -/
private def assemble (negative : Bool) (whole fraction power : List Char) : Option Decimal :=
  if whole.isEmpty && fraction.isEmpty then none
  else (Decimal.exponent? power).bind fun shift =>
    if widestExponent < shift - fraction.length + Decimal.digits (number (whole ++ fraction)) - 1 ||
        shift - fraction.length < finestExponent then none
    else some (.finite negative (number (whole ++ fraction)) (shift - fraction.length))

private theorem finite?_whole {text whole power : List Char} (negative : Bool)
    (front : text.takeWhile isDigit = whole) (behind : text.dropWhile isDigit = power)
    (noPoint : ∀ tail, power ≠ '.' :: tail) :
    Decimal.finite? negative text = assemble negative whole [] power := by
  unfold Decimal.finite?
  rw [front, behind]
  simp only
  rfl

private theorem finite?_point {text whole tail : List Char} (negative : Bool)
    (front : text.takeWhile isDigit = whole) (behind : text.dropWhile isDigit = '.' :: tail) :
    Decimal.finite? negative text =
      assemble negative whole (tail.takeWhile isDigit) (tail.dropWhile isDigit) := by
  unfold Decimal.finite?
  rw [front, behind]
  rfl

/-- The parts of a numeral are told apart by what stands between them. -/
theorem Sound.reads_body (sound : numeral.Sound) (writable : numeral.Writable) (negative : Bool) :
    Decimal.finite? negative numeral.body = some (.finite negative numeral.coefficient numeral.exponent) := by
  obtain ⟨ends, noPoint⟩ := sound.ends_power
  have pointed : Ends (pointText numeral.fraction ++ powerText numeral.power) := by
    cases numeral.fraction with
    | none => exact ends
    | some _ => simp [Ends, pointText, isDigit]
  obtain ⟨front, behind⟩ := span_digits sound.whole pointed
  have parts : Decimal.finite? negative numeral.body =
      assemble negative numeral.whole (numeral.fraction.getD []) (powerText numeral.power) := by
    have digits := sound.fraction
    unfold body
    cases fraction : numeral.fraction with
    | none =>
      rw [fraction] at front behind
      exact finite?_whole negative front behind noPoint
    | some fraction' =>
      rw [fraction] at front behind digits
      obtain ⟨inside, back⟩ := span_digits digits ends
      rw [finite?_point negative front behind]
      exact congrArg₂ (assemble negative numeral.whole) inside back
  have some_digit : (numeral.whole.isEmpty && (numeral.fraction.getD []).isEmpty) = false := by
    simpa using sound.given
  have inside : ¬ (decide (widestExponent < numeral.exponent + Decimal.digits numeral.coefficient - 1) ||
      decide (numeral.exponent < finestExponent)) = true := by
    rw [Bool.or_eq_true, decide_eq_true_eq, decide_eq_true_eq, not_or]
    exact ⟨Int.not_lt.mpr writable.widest, Int.not_lt.mpr writable.finest⟩
  rw [parts, assemble, some_digit, sound.reads_power]
  exact if_neg inside

private theorem Sound.takes_sign (sound : numeral.Sound) :
    Text.takeSign (signText numeral.sign ++ numeral.body) = (isNegative numeral.sign, numeral.body) := by
  obtain ⟨c, rest, written, lead⟩ := sound.lead
  refine takeSign_signText _ fun c' first => ?_
  rw [written] at first
  cases first
  exact (lead_other lead).1

/-- The body of a numeral starts with none of the words for what is no number. -/
private theorem Sound.no_word {word : String} (sound : numeral.Sound)
    (lowered : word.toList = numeral.body.map Char.toLower) :
    (word == "inf" || word == "infinity") = false ∧ (∀ tail, word.toList ≠ 'n' :: 'a' :: 'n' :: tail) ∧
      ∀ tail, word.toList ≠ 's' :: 'n' :: 'a' :: 'n' :: tail := by
  obtain ⟨c, rest, written, lead⟩ := sound.lead
  obtain ⟨-, notI, notN, notS⟩ := lead_other lead
  rw [written, List.map_cons] at lowered
  have other {name : String} (initial : ∀ c' ∈ name.toList.head?, c' ≠ c.toLower) :
      (word == name) = false := by
    rw [beq_eq_false_iff_ne]
    intro same
    rw [← same, lowered] at initial
    exact initial _ rfl rfl
  refine ⟨?_, fun tail => ?_, fun tail => ?_⟩
  · rw [other (by simpa using notI.symm), other (by simpa using notI.symm), Bool.or_false]
  · rw [lowered]
    exact fun same => notN (List.cons.inj same).1
  · rw [lowered]
    exact fun same => notS (List.cons.inj same).1

/-- A numeral is read as what it writes. -/
theorem Sound.reads (sound : numeral.Sound) (writable : numeral.Writable) :
    Decimal.read? numeral.text =
      some (.finite (isNegative numeral.sign) numeral.coefficient numeral.exponent) := by
  let word := String.ofList (numeral.body.map Char.toLower)
  obtain ⟨inf, nan, snan⟩ := sound.no_word (show word.toList = _ from String.toList_ofList)
  have plain : plainText? numeral.text.toList = some (signText numeral.sign ++ numeral.body) := by
    rw [plainText?_written sound.written, text, String.toList_ofList]
  unfold Decimal.read?
  rw [plain]
  simp only [Option.bind_eq_bind, Option.bind_some, sound.takes_sign]
  change (if word == "inf" || word == "infinity" then _ else _) = _
  rw [inf]
  split
  · rename_i impossible
    cases impossible
  split
  · rename_i tail same
    exact absurd same (nan tail)
  · rename_i tail same
    exact absurd same (snan tail)
  · exact sound.reads_body writable _

/-! ## Whole numbers -/

/-- A whole number as it is written out. -/
def ofInt (n : Int) : Numeral where
  sign := if n < 0 then some true else none
  whole := Nat.toDigits 10 n.natAbs
  fraction := none
  power := none

theorem text_ofInt (n : Int) : (ofInt n).text = toString n := by
  apply String.toList_inj.mp
  rw [Json.Numeral.toList_toString, text, String.toList_ofList]
  by_cases negative : n < 0
  · simp [ofInt, body, signText, pointText, powerText, negative]
  · simp [ofInt, body, signText, pointText, powerText, negative]

theorem sound_ofInt (n : Int) : (ofInt n).Sound where
  whole := Json.isDigit_of_toDigits n.natAbs
  fraction := nofun
  given := by simp [ofInt]
  power := nofun

theorem coefficient_ofInt (n : Int) : (ofInt n).coefficient = n.natAbs := by
  rw [coefficient, ofInt, Option.getD_none, List.append_nil]
  exact Json.digitsValue_toDigits n.natAbs

theorem value_ofInt (n : Int) : (ofInt n).value = n := by
  rw [value_eq, coefficient_ofInt]
  have whole : size n.natAbs (ofInt n).exponent = |(n : ℚ)| := by
    simp [size, exponent, shift, ofInt]
  rw [whole]
  by_cases negative : n < 0
  · have below : (n : ℚ) < 0 := by exact_mod_cast negative
    simp [ofInt, isNegative, signed, negative, abs_of_neg below]
  · have above : (0 : ℚ) ≤ n := by exact_mod_cast Int.not_lt.mp negative
    simp [ofInt, isNegative, signed, negative, abs_of_nonneg above]

end Numeral

end Curation.Decimal
