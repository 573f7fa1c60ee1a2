import Curation.Proofs.Json.Reading
import Curation.Proofs.Json.RoundTrip
import Curation.Proofs.Number.Shortest

/-! Numbers read back. The text of a number is a literal whose parts the reader tells apart
by the characters between them, so every number in canonical form is legible. -/
namespace Curation

/-- Numbers in the one form that they are kept in. -/
def Number.IsCanonical : Number → Prop
  | .whole _ => True
  | .real x => x.IsCanonical

namespace Json

open Binary64 (layout shortestDecimal)

variable {digits rest : List Char} {c d : Char}

/-! ## Digits -/

theorem isDigit_of_toDigits (n : Nat) : ∀ d ∈ Nat.toDigits 10 n, isDigit d = true := by
  intro d inside
  have := Nat.isDigit_of_mem_toDigits (by decide) (by decide) inside
  simpa [isDigit, Char.isDigit, ← UInt32.le_iff_toNat_le, Char.le_def] using this

theorem digitsValue_eq (digits : List Char) : digitsValue digits = Nat.ofDigitChars 10 digits 0 := by
  rw [Nat.ofDigitChars_eq_foldl, digitsValue]

theorem digitsValue_toDigits (n : Nat) : digitsValue (Nat.toDigits 10 n) = n := by
  rw [digitsValue_eq, Nat.ofDigitChars_ten_toDigits]

theorem digitsValue_zeros_append (n : Nat) (digits : List Char) :
    digitsValue (List.replicate n '0' ++ digits) = digitsValue digits := by
  rw [digitsValue_eq, digitsValue_eq, Nat.ofDigitChars_append, Nat.ofDigitChars_replicate_zero]
  simp

theorem digitsValue_append_zeros (digits : List Char) (n : Nat) :
    digitsValue (digits ++ List.replicate n '0') = digitsValue digits * 10 ^ n := by
  rw [digitsValue_eq, digitsValue_eq, Nat.ofDigitChars_append, Nat.ofDigitChars_replicate_zero, Nat.mul_comm]

/-- A number other than zero does not begin with a zero. -/
theorem toDigits_leading {n : Nat} (positive : 0 < n) :
    ∃ d rest, Nat.toDigits 10 n = d :: rest ∧ d ≠ '0' := by
  induction n using Nat.strong_induction_on with
  | _ n ih =>
    rw [Nat.toDigits_eq_if (by decide)]
    split
    · rename_i small
      refine ⟨n.digitChar, [], rfl, ?_⟩
      have digits : ∀ m : Fin 10, m.val ≠ 0 → m.val.digitChar ≠ '0' := by decide
      exact digits ⟨n, small⟩ positive.ne'
    · obtain ⟨d, rest, written, leading⟩ := ih (n / 10) (by omega) (by omega)
      exact ⟨d, rest ++ [(n % 10).digitChar], by rw [written, List.cons_append], leading⟩

/-- What may not follow digits for these to be all. -/
def EndsDigits (rest : List Char) : Prop := ∀ c ∈ rest.head?, isDigit c = false

theorem takeDigits_append (all : ∀ d ∈ digits, isDigit d = true) (ends : EndsDigits rest) :
    takeDigits (digits ++ rest) = (digits, rest) := by
  have stops : rest.takeWhile isDigit = [] ∧ rest.dropWhile isDigit = rest := by
    cases rest with
    | nil => simp
    | cons c rest => simp [ends c rfl]
  rw [takeDigits, List.takeWhile_append_of_pos all, List.dropWhile_append_of_pos all, stops.1, stops.2,
    List.append_nil]

theorem EndsNumber.stops (ends : EndsNumber rest) : EndsDigits rest := by
  cases rest with
  | nil => nofun
  | cons c rest => simpa [EndsDigits] using ends.1

/-! ## Parts of a literal -/

theorem readWhole_digits (all : ∀ d ∈ digits, isDigit d = true) (some : digits ≠ [])
    (leading : digits.head? ≠ .some '0') (ends : EndsDigits rest) :
    readWhole (digits ++ rest) = .some (digits, rest) := by
  obtain ⟨d, others, rfl⟩ := List.exists_cons_of_ne_nil some
  have other : d ≠ '0' := by simpa using leading
  have digit := all d (List.mem_cons_self ..)
  rw [List.cons_append, readWhole, if_pos digit, ← List.cons_append, takeDigits_append all ends]
  simpa using other

theorem readFraction_none (plain : rest.head? ≠ some '.') : readFraction rest = ([], rest) := by
  unfold readFraction
  split
  · simp at plain
  · rfl

theorem readFraction_digits (all : ∀ d ∈ digits, isDigit d = true) (some : digits ≠ [])
    (ends : EndsDigits rest) : readFraction ('.' :: (digits ++ rest)) = (digits, rest) := by
  obtain ⟨d, others, rfl⟩ := List.exists_cons_of_ne_nil some
  rw [List.cons_append, readFraction, if_pos (all d (List.mem_cons_self ..)), ← List.cons_append,
    takeDigits_append all ends]

theorem readExponent_none (ends : EndsNumber rest) : readExponent rest = (none, rest) := by
  cases rest with
  | nil => rfl
  | cons c rest =>
    have other : ¬ (c == 'e' || c == 'E') = true := by simp [ends.2.2.1, ends.2.2.2]
    unfold readExponent
    exact if_neg other

theorem readExponent_digits (negative : Bool) (all : ∀ d ∈ digits, isDigit d = true) (some : digits ≠ [])
    (ends : EndsDigits rest) :
    readExponent ('e' :: (if negative then '-' else '+') :: (digits ++ rest)) =
      (.some (if negative then -(digitsValue digits : Int) else digitsValue digits), rest) := by
  obtain ⟨d, others, rfl⟩ := List.exists_cons_of_ne_nil some
  have taken := takeDigits_append all ends
  cases negative <;> simp only [Bool.false_eq_true, if_false, if_true, readExponent, taken] <;> rfl

/-- The parts of a literal without its sign, and what is behind them. -/
structure Parts (body whole fraction : List Char) (exponent : Option Int) (rest : List Char) : Prop where
  unsigned : body.head? ≠ some '-'
  read : ∃ behind between, readWhole body = some (whole, behind) ∧
    readFraction behind = (fraction, between) ∧ readExponent between = (exponent, rest)

/-- What begins with a digit, or a sign before one, is no other value. -/
theorem readScalar_digit (digit : isDigit d = true) (negative : Bool) :
    readScalar ((if negative then '-' :: d :: digits else d :: digits) ++ rest) =
      readNumber ((if negative then '-' :: d :: digits else d :: digits) ++ rest) := by
  cases negative with
  | false =>
    have other (c : Char) (letter : isDigit c = false) : d ≠ c := by
      rintro rfl
      simp [digit] at letter
    simp [readScalar, other 'n' rfl, other 't' rfl, other 'f' rfl, other 'N' rfl, other 'I' rfl, other '-' rfl]
  | true =>
    have other : d ≠ 'I' := by
      rintro rfl
      exact absurd digit (by decide)
    simp [readScalar, other]

section Parts

variable {body whole fraction : List Char} {exponent : Option Int}

theorem Parts.positive (parts : Parts body whole fraction exponent rest) :
    readNumber body = .ok (.number (numberOf false whole fraction exponent), rest) := by
  obtain ⟨unsigned, behind, between, first, second, third⟩ := parts
  unfold readNumber
  split
  rename_i sign
  split at sign
  · simp at unsigned
  · cases sign
    simp only [first, second, third]

theorem Parts.negative (parts : Parts body whole fraction exponent rest) :
    readNumber ('-' :: body) = .ok (.number (numberOf true whole fraction exponent), rest) := by
  obtain ⟨unsigned, behind, between, first, second, third⟩ := parts
  unfold readNumber
  simp only [first, second, third]

/-- A literal is read part by part. -/
theorem Parts.signed (parts : Parts body whole fraction exponent rest) (negative : Bool) :
    readNumber (if negative then '-' :: body else body) =
      .ok (.number (numberOf negative whole fraction exponent), rest) := by
  cases negative with
  | true => exact parts.negative
  | false => exact parts.positive

end Parts

/-! ## Numerals -/

/-- A literal without its sign: digits, digits behind a point if there are any, and the sign
and digits of a power of ten if there is one. -/
structure Numeral where
  whole : List Char
  fraction : List Char
  power : Option (Bool × List Char)

namespace Numeral

def point (fraction : List Char) : List Char := if fraction.isEmpty then [] else '.' :: fraction

def mark : Option (Bool × List Char) → List Char
  | none => []
  | some (negative, digits) => 'e' :: (if negative then '-' else '+') :: digits

def text (numeral : Numeral) : List Char := numeral.whole ++ (point numeral.fraction ++ mark numeral.power)

def exponent (numeral : Numeral) : Option Int :=
  numeral.power.map fun (negative, digits) =>
    if negative then -(digitsValue digits : Int) else digitsValue digits

/-- The number that a numeral stands for with a sign in front of it. -/
def value (numeral : Numeral) (negative : Bool) : Number :=
  numberOf negative numeral.whole numeral.fraction numeral.exponent

/-- A numeral of digits only, with no zero in front of others. -/
structure Sound (numeral : Numeral) : Prop where
  leading : numeral.whole = ['0'] ∨
    (∀ d ∈ numeral.whole, isDigit d = true) ∧ ∃ d rest, numeral.whole = d :: rest ∧ d ≠ '0'
  fraction : ∀ d ∈ numeral.fraction, isDigit d = true
  power : ∀ negative digits, numeral.power = some (negative, digits) →
    digits ≠ [] ∧ ∀ d ∈ digits, isDigit d = true

variable {numeral : Numeral}

theorem Sound.starts (sound : numeral.Sound) : ∃ d rest, numeral.text = d :: rest ∧ isDigit d = true := by
  rcases sound.leading with zero | ⟨all, d, rest, whole, _⟩
  · exact ⟨'0', _, by rw [text, zero, List.singleton_append], by decide⟩
  · exact ⟨d, _, by rw [text, whole, List.cons_append], all d (by rw [whole]; exact List.mem_cons_self ..)⟩

theorem Sound.readWhole (sound : numeral.Sound) (ends : EndsDigits rest) :
    readWhole (numeral.whole ++ rest) = some (numeral.whole, rest) := by
  rcases sound.leading with zero | ⟨all, d, others, whole, leading⟩
  · rw [zero]
    rfl
  · exact readWhole_digits all (by simp [whole]) (by simpa [whole] using leading) ends

theorem Sound.ends_mark (sound : numeral.Sound) (ends : EndsNumber rest) :
    EndsDigits (mark numeral.power ++ rest) ∧ (mark numeral.power ++ rest).head? ≠ some '.' ∧
      readExponent (mark numeral.power ++ rest) = (numeral.exponent, rest) := by
  rw [exponent]
  cases power : numeral.power with
  | none =>
    refine ⟨ends.stops, ?_, readExponent_none ends⟩
    cases rest with
    | nil => nofun
    | cons c rest => simpa [mark] using ends.2.1
  | some power' =>
    obtain ⟨negative, digits⟩ := power'
    obtain ⟨some, all⟩ := sound.power negative digits power
    exact ⟨by simp [EndsDigits, mark, isDigit], by simp [mark],
      readExponent_digits negative all some ends.stops⟩

theorem Sound.parts (sound : numeral.Sound) (ends : EndsNumber rest) :
    Parts (numeral.text ++ rest) numeral.whole numeral.fraction numeral.exponent rest := by
  obtain ⟨stops, noPoint, read⟩ := sound.ends_mark ends
  obtain ⟨d, others, written, digit⟩ := sound.starts
  refine ⟨?_, ?_⟩
  · rw [written]
    rintro same
    cases same
    exact absurd digit (by decide)
  · refine ⟨point numeral.fraction ++ (mark numeral.power ++ rest), mark numeral.power ++ rest, ?_, ?_, read⟩
    · rw [text, List.append_assoc, List.append_assoc]
      apply sound.readWhole
      rw [point]
      split
      · exact stops
      · simp [EndsDigits, isDigit]
    · rw [point]
      split
      · rename_i none
        rw [List.isEmpty_iff.mp none]
        exact readFraction_none noPoint
      · rename_i some
        exact readFraction_digits sound.fraction (by simpa using some) stops

theorem Sound.plain (sound : numeral.Sound) : '\\' ∉ numeral.text := by
  have digits {digits : List Char} (all : ∀ d ∈ digits, isDigit d = true) : '\\' ∉ digits :=
    fun inside => absurd (all _ inside) (by decide)
  have whole : '\\' ∉ numeral.whole := by
    rcases sound.leading with zero | ⟨all, _⟩
    · rw [zero]
      decide
    · exact digits all
  have pointed : '\\' ∉ point numeral.fraction := by
    rw [point]
    split
    · simp
    · simpa using digits sound.fraction
  have marked : '\\' ∉ mark numeral.power := by
    cases power : numeral.power with
    | none => simp [mark]
    | some power' =>
      obtain ⟨negative, scale⟩ := power'
      have := digits (sound.power negative scale power).2
      cases negative <;> simpa [mark] using this
  simp only [text, List.mem_append, not_or]
  exact ⟨whole, pointed, marked⟩

/-- A number that a numeral writes is legible. -/
theorem Sound.legible (sound : numeral.Sound) (negative : Bool) {n : Number}
    (written : writeNumber n = if negative then '-' :: numeral.text else numeral.text)
    (value : numeral.value negative = n) : n.Legible := by
  obtain ⟨d, others, text, digit⟩ := sound.starts
  refine ⟨fun rest ends => ?_, ?_, ?_⟩
  · have read := (sound.parts ends).signed negative
    have same : (if negative then '-' :: (numeral.text ++ rest) else numeral.text ++ rest) =
        writeNumber n ++ rest := by
      rw [written]
      cases negative <;> rfl
    rw [same, ← Numeral.value, value] at read
    rw [← read, written, text]
    exact readScalar_digit digit negative
  · cases negative with
    | true => exact ⟨'-', _, written, by decide⟩
    | false => exact ⟨d, others, by rw [written, ← text]; rfl, by simp [startsScalar, digit]⟩
  · rw [written]
    cases negative <;> simpa using sound.plain

/-! ## Whole numbers -/

theorem toDigits_sound (n : Nat) : Numeral.Sound ⟨Nat.toDigits 10 n, [], none⟩ where
  leading := by
    rcases Nat.eq_zero_or_pos n with rfl | positive
    · exact .inl rfl
    · exact .inr ⟨isDigit_of_toDigits n, toDigits_leading positive⟩
  fraction := nofun
  power := nofun

/-- The text of a whole number is its digits, behind a minus if it is negative. -/
theorem toList_toString (n : Int) : (toString n).toList =
    if decide (n < 0) then '-' :: Nat.toDigits 10 n.natAbs else Nat.toDigits 10 n.natAbs := by
  rw [Int.toString_eq_repr, Int.repr_eq_if]
  by_cases negative : n < 0
  · have other : ¬ 0 ≤ n := by omega
    have size : (-n).toNat = n.natAbs := by omega
    simp [negative, other, size, Nat.repr_eq_ofList_toDigits]
  · have other : 0 ≤ n := by omega
    have size : n.toNat = n.natAbs := by omega
    simp [negative, other, size, Nat.repr_eq_ofList_toDigits]

theorem whole_legible (n : Int) : (Number.whole n).Legible := by
  have written : writeNumber (.whole n) =
      if decide (n < 0) then '-' :: Nat.toDigits 10 n.natAbs else Nat.toDigits 10 n.natAbs := by
    rw [writeNumber, Number.text, toList_toString]
  refine (toDigits_sound n.natAbs).legible (decide (n < 0)) (by simpa [text, point, mark] using written) ?_
  simp only [value, numberOf, exponent, digitsValue_toDigits]
  by_cases negative : n < 0
  · simp [negative, -Nat.cast_natAbs]
    omega
  · simp [negative, -Nat.cast_natAbs]
    omega

/-! ## Decimals -/

theorem zeros_digits (n : Nat) : ∀ d ∈ List.replicate n '0', isDigit d = true := by
  intro d inside
  rw [List.eq_of_mem_replicate inside]
  decide

/-- A numeral with a point or a power of ten stands for a decimal. -/
theorem value_decimal {numeral : Numeral} (real : numeral.fraction ≠ [] ∨ numeral.power ≠ none) (negative : Bool) :
    numeral.value negative = .real (Binary64.ofDecimal negative
      (digitsValue (numeral.whole ++ numeral.fraction)) (numeral.exponent.getD 0 - numeral.fraction.length)) := by
  rw [value, numberOf, if_neg]
  rintro ⟨none, noPower⟩
  rcases real with some | power
  · exact some (List.isEmpty_iff.mp none)
  · simp [exponent, power] at noPower

section Layout

variable {c n : Nat}

theorem layout_below : Sound ⟨['0'], List.replicate n '0' ++ Nat.toDigits 10 c, none⟩ where
  leading := .inl rfl
  fraction d inside := (List.mem_append.mp inside).elim (zeros_digits n d) (isDigit_of_toDigits c d)
  power := nofun

theorem layout_whole (positive : 0 < c) : Sound ⟨Nat.toDigits 10 c ++ List.replicate n '0', ['0'], none⟩ where
  leading := by
    obtain ⟨d, rest, written, leading⟩ := toDigits_leading positive
    exact .inr ⟨fun d inside => (List.mem_append.mp inside).elim (isDigit_of_toDigits c d) (zeros_digits n d),
      d, rest ++ List.replicate n '0', by simp [written], leading⟩
  fraction := by simp [isDigit]
  power := nofun

theorem layout_inside (positive : 0 < c) (some : 0 < n) :
    Sound ⟨(Nat.toDigits 10 c).take n, (Nat.toDigits 10 c).drop n, none⟩ where
  leading := by
    obtain ⟨d, rest, written, leading⟩ := toDigits_leading positive
    obtain ⟨n, rfl⟩ := Nat.exists_eq_succ_of_ne_zero some.ne'
    exact .inr ⟨fun d inside => isDigit_of_toDigits c d (List.mem_of_mem_take inside),
      d, rest.take n, by simp [written], leading⟩
  fraction d inside := isDigit_of_toDigits c d (List.mem_of_mem_drop inside)
  power := nofun

theorem layout_scientific (positive : 0 < c) (negative : Bool) {d : Char} {rest : List Char} (scale : List Char)
    (written : Nat.toDigits 10 c = d :: rest) (some : scale ≠ []) (all : ∀ d ∈ scale, isDigit d = true) :
    Sound ⟨[d], rest, .some (negative, scale)⟩ where
  leading := by
    obtain ⟨d', rest', written', leading⟩ := toDigits_leading positive
    rw [written] at written'
    cases written'
    exact .inr ⟨fun d' inside => isDigit_of_toDigits c d' (by
      rw [written, List.mem_singleton.mp inside]; exact List.mem_cons_self ..), d, [], rfl, leading⟩
  fraction d' inside := isDigit_of_toDigits c d' (written ▸ List.mem_cons_of_mem _ inside)
  power := by
    rintro _ _ ⟨⟩
    exact ⟨some, all⟩

end Layout

/-- The digits of an exponent, at least two. -/
def padded (n : Nat) : List Char :=
  if (Nat.toDigits 10 n).length < 2 then '0' :: Nat.toDigits 10 n else Nat.toDigits 10 n

theorem padded_ne_nil (n : Nat) : padded n ≠ [] := by
  rw [padded]
  split
  · simp
  · exact Nat.toDigits_ne_nil

theorem padded_digits (n : Nat) : ∀ d ∈ padded n, isDigit d = true := by
  intro d inside
  rw [padded] at inside
  split at inside
  · rcases List.mem_cons.mp inside with rfl | inside
    · decide
    · exact isDigit_of_toDigits _ d inside
  · exact isDigit_of_toDigits _ d inside

theorem digitsValue_zero_cons (digits : List Char) : digitsValue ('0' :: digits) = digitsValue digits :=
  digitsValue_zeros_append 1 digits

theorem digitsValue_padded (n : Nat) : digitsValue (padded n) = n := by
  rw [padded]
  split
  · rw [digitsValue_zero_cons, digitsValue_toDigits]
  · exact digitsValue_toDigits _

/-- The digits of a decimal are laid out as a numeral of the same value. -/
theorem exists_layout {c : Nat} (positive : 0 < c) (k : Int) :
    ∃ numeral : Numeral, numeral.Sound ∧
      numeral.text = layout (Nat.toDigits 10 c) ((Nat.toDigits 10 c).length + k) ∧
      ∀ negative, numeral.value negative = .real (Binary64.ofDecimal negative c k) := by
  obtain ⟨first, others, written, _⟩ := toDigits_leading positive
  have value := digitsValue_toDigits c
  unfold layout
  split
  · split
    · rename_i small
      refine ⟨_, layout_below (c := c) (n := (-((Nat.toDigits 10 c).length + k)).toNat), ?_, fun negative => ?_⟩
      · simp [text, point, mark, Nat.toDigits_ne_nil]
      · rw [value_decimal (.inl (by simp [Nat.toDigits_ne_nil]))]
        congr 2
        · rw [List.singleton_append, digitsValue_zero_cons, digitsValue_zeros_append, value]
        · simp only [exponent, Option.map_none, Option.getD_none, List.length_append, List.length_replicate]
          omega
    · split
      · rename_i large
        refine ⟨_, layout_whole positive
          (n := ((Nat.toDigits 10 c).length + k).toNat - (Nat.toDigits 10 c).length), ?_, fun negative => ?_⟩
        · simp [text, point, mark]
        · rw [value_decimal (.inl (by simp)), List.append_assoc, ← List.replicate_succ', digitsValue_append_zeros,
            value, Binary64.ofDecimal_shifts]
          congr 2
          simp only [exponent, Option.map_none, Option.getD_none, List.length_singleton]
          omega
      · rename_i inside
        refine ⟨_, layout_inside positive (n := ((Nat.toDigits 10 c).length + k).toNat) (by omega), ?_,
          fun negative => ?_⟩
        · have rest : (List.drop ((Nat.toDigits 10 c).length + k).toNat (Nat.toDigits 10 c)).isEmpty = false := by
            simpa using inside
          simp [text, point, mark, rest]
        · rw [value_decimal (.inl (by simp; omega)), List.take_append_drop, value]
          congr 2
          simp only [exponent, Option.map_none, Option.getD_none, List.length_drop]
          omega
  · generalize scientific : (Nat.toDigits 10 c).length + k - 1 = e
    refine ⟨_, layout_scientific positive (decide (e < 0)) (padded e.natAbs) written (padded_ne_nil _)
      (padded_digits _), ?_, fun negative => ?_⟩
    · rw [written]
      cases others <;> simp [text, point, mark, padded]
    · rw [value_decimal (.inr (by simp)), List.singleton_append, ← written, value]
      have length : (Nat.toDigits 10 c).length = others.length + 1 := by rw [written, List.length_cons]
      congr 2
      simp only [exponent, Option.map_some, Option.getD_some, digitsValue_padded]
      split <;> rename_i sign <;> simp only [decide_eq_true_eq] at sign <;> omega

theorem finite_legible {negative : Bool} {m : Nat} {e : Int}
    (canonical : (Binary64.finite negative m e).IsCanonical) : (Number.real (.finite negative m e)).Legible := by
  rcases Nat.eq_zero_or_pos m with rfl | positive
  · have zero : Sound ⟨['0'], ['0'], none⟩ := ⟨.inl rfl, by simp [isDigit], nofun⟩
    obtain ⟨_, _, _, wide | rfl⟩ := canonical
    · exact absurd wide (by decide)
    refine zero.legible negative ?_ ?_
    · simp [writeNumber, Number.text, Binary64.text, text, point, mark]
    · rw [value_decimal (.inl (by simp))]
      rfl
  · obtain ⟨numeral, sound, written, value⟩ :=
      exists_layout (Binary64.shortestDecimal_pos positive canonical) (shortestDecimal m e).2
    refine sound.legible negative ?_ ?_
    · rw [written]
      simp [writeNumber, Number.text, Binary64.text, positive.ne']
    · rw [value, Binary64.shortestDecimal_reads positive canonical]

end Numeral

/-- Every number in canonical form is legible. -/
theorem legible_of_canonical : ∀ n : Number, n.IsCanonical → n.Legible
  | .whole n, _ => Numeral.whole_legible n
  | .real (.finite _ _ _), canonical => Numeral.finite_legible canonical
  | .real .nan, _ => ⟨fun _ _ => rfl, ⟨_, _, rfl, by decide⟩, by decide⟩
  | .real (.infinity false), _ => ⟨fun _ _ => rfl, ⟨_, _, rfl, by decide⟩, by decide⟩
  | .real (.infinity true), _ => ⟨fun _ _ => rfl, ⟨_, _, rfl, by decide⟩, by decide⟩

theorem Literal.canonical : ∀ n : Number, Literal n → n.IsCanonical
  | _, .nan => trivial
  | _, .infinity _ => trivial
  | _, .digits negative whole fraction exponent => by
    rw [numberOf]
    split
    · trivial
    · exact Binary64.ofDecimal_canonical ..

/-! ## Texts -/

/-- The values that texts write: each name stands once in an object, and every number is in
canonical form. -/
def Proper (value : Json) : Prop := value.Over Number.IsCanonical

theorem Proper.of_get? {members : Members} (proper : (Json.obj members).Proper) {name : String} {value : Json}
    (found : Members.get? name members = some value) : value.Proper :=
  Over.of_get? proper found

theorem read_proper {text : String} {value : Json} (read : Json.read text = .ok value) : value.Proper :=
  (read_literal read).mono Literal.canonical

theorem value?_proper {text : String} {value : Json} (read : value? text = some value) : value.Proper :=
  (value?_literal read).mono Literal.canonical

/-- The text of a value reads as it, in every standard layout. -/
theorem Proper.read {layout : Layout} (standard : layout.Standard) {value : Json} (proper : value.Proper) :
    Json.read (String.ofList (writeValue layout value)) = .ok value :=
  read_written standard (Over.mono legible_of_canonical proper)

theorem Proper.value? {layout : Layout} (standard : layout.Standard) {value : Json} (proper : value.Proper) :
    Json.value? (String.ofList (writeValue layout value)) = some value :=
  value?_written standard (Over.mono legible_of_canonical proper)

end Json

end Curation
