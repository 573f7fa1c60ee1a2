import Curation.Json.Reader
import Curation.Json.Writer

/-! Strings read back. A character stands in a string as itself, as an escape of one letter,
or as one or two code units, and each of these is read as the character, whatever follows. -/
namespace Curation.Json

variable {opening : Nat} {seen more : List Char} {c : Char}

theorem readString_plain (wide : 0x20 ≤ c.toNat) (quote : c ≠ '"') (backslash : c ≠ '\\') :
    readString opening seen (c :: more) = readString opening (c :: seen) more := by
  have narrow : ¬ c.toNat < 0x20 := by omega
  simp [readString, backslash, narrow]

theorem readString_letter {letter : Char} (known : escaped? letter = some c) :
    readString opening seen ('\\' :: letter :: more) = readString opening (c :: seen) more := by
  have other : letter ≠ 'u' := by
    rintro rfl
    cases known
  simp [readString, other, known]

theorem readString_quote :
    readString opening seen ('"' :: more) = .ok (String.ofList seen.reverse, more) := by
  rw [readString]

/-! ## Code units -/

theorem codeUnit?_written {unit : Nat} (narrow : unit < 0x10000) :
    codeUnit? (Text.hexDigit (unit / 4096 % 16)) (Text.hexDigit (unit / 256 % 16))
      (Text.hexDigit (unit / 16 % 16)) (Text.hexDigit (unit % 16)) = some unit := by
  have bound (n : Nat) : n % 16 < 16 := Nat.mod_lt _ (by decide)
  simp only [codeUnit?, Text.hexValue?_hexDigit (bound _), bind, Option.bind, pure]
  congr 1
  omega

/-- A code unit on its own, in front of more text, whether or not another one follows. -/
theorem readString_unit {unit : Nat} (narrow : unit < 0x10000) (alone : isHighSurrogate unit = false)
    (further : more ≠ []) :
    readString opening seen (writeUnit unit ++ more) =
      readString opening (charOfUnit unit :: seen) more := by
  obtain ⟨next, rest, rfl⟩ := List.exists_cons_of_ne_nil further
  by_cases another : ∃ e f g h after tail, next = '\\' ∧ rest = 'u' :: e :: f :: g :: h :: after :: tail
  · obtain ⟨e, f, g, h, after, tail, rfl, rfl⟩ := another
    simp [writeUnit, readString, codeUnit?_written narrow, alone]
  · simp only [writeUnit, List.cons_append, List.nil_append]
    rw [readString.eq_5 _ _ _ _ _ _ _ _ fun e f g h after tail first others =>
      another ⟨e, f, g, h, after, tail, first, others⟩, codeUnit?_written narrow]

theorem halves_narrow {high low : Nat} (first : isHighSurrogate high = true)
    (second : isLowSurrogate low = true) : high < 0x10000 ∧ low < 0x10000 := by
  simp only [isHighSurrogate, isLowSurrogate, Bool.and_eq_true, decide_eq_true_eq] at first second
  omega

theorem readString_pair {high low : Nat} (first : isHighSurrogate high = true)
    (second : isLowSurrogate low = true) (further : more ≠ []) :
    readString opening seen (writeUnit high ++ (writeUnit low ++ more)) =
      readString opening (charOfPair high low :: seen) more := by
  obtain ⟨next, rest, rfl⟩ := List.exists_cons_of_ne_nil further
  obtain ⟨narrow, narrow'⟩ := halves_narrow first second
  simp [writeUnit, readString, codeUnit?_written narrow, codeUnit?_written narrow', first, second]

/-! ## Characters -/

/-- How a character is written: as itself, with a letter behind a backslash, or in code
units. -/
inductive Writes (c : Char) : List Char → Prop
  | plain : 0x20 ≤ c.toNat → c ≠ '"' → c ≠ '\\' → Writes c [c]
  | letter {letter : Char} : escaped? letter = some c → Writes c ['\\', letter]
  | unit {unit : Nat} : unit < 0x10000 → isHighSurrogate unit = false → isLowSurrogate unit = false →
    charOfUnit unit = c → Writes c (writeUnit unit)
  | pair {high low : Nat} : isHighSurrogate high = true → isLowSurrogate low = true →
    charOfPair high low = c → Writes c (writeUnit high ++ writeUnit low)

/-- No character is half of a surrogate pair. -/
theorem not_surrogate (c : Char) : isHighSurrogate c.toNat = false ∧ isLowSurrogate c.toNat = false := by
  have valid : c.toNat < 0xD800 ∨ 0xDFFF < c.toNat ∧ c.toNat < 0x110000 := c.valid
  simp only [isHighSurrogate, isLowSurrogate, Bool.and_eq_false_iff, decide_eq_false_iff_not]
  omega

theorem writeUnits_writes (wide : 0x10000 ≤ c.toNat) :
    Writes c (writeUnit (0xD800 + (c.toNat - 0x10000) / 1024) ++
      writeUnit (0xDC00 + (c.toNat - 0x10000) % 1024)) := by
  have valid : c.toNat < 0x110000 := by
    have : c.toNat < 0xD800 ∨ 0xDFFF < c.toNat ∧ c.toNat < 0x110000 := c.valid
    omega
  refine .pair ?_ ?_ ?_
  · simp only [isHighSurrogate, Bool.and_eq_true, decide_eq_true_eq]
    omega
  · simp only [isLowSurrogate, Bool.and_eq_true, decide_eq_true_eq]
    omega
  · rw [charOfPair]
    have whole : 0x10000 + (0xD800 + (c.toNat - 0x10000) / 1024 - 0xD800) * 1024 +
        (0xDC00 + (c.toNat - 0x10000) % 1024 - 0xDC00) = c.toNat := by omega
    rw [whole, Char.ofNat_toNat]

theorem writeChar_writes (ascii : Bool) (c : Char) : Writes c (writeChar ascii c) := by
  unfold writeChar
  split
  case h_8 quote backslash _ _ _ _ _ =>
    simp only
    split
    · rename_i visible
      exact .plain visible.1 quote backslash
    · split
      · rename_i narrow
        obtain ⟨notHigh, notLow⟩ := not_surrogate c
        refine .unit narrow notHigh notLow ?_
        rw [charOfUnit, notHigh, notLow]
        exact Char.ofNat_toNat c
      · exact writeUnits_writes (by omega)
  all_goals exact .letter rfl

theorem readString_writeChar (ascii : Bool) (further : more ≠ []) :
    readString opening seen (writeChar ascii c ++ more) = readString opening (c :: seen) more := by
  have written := writeChar_writes ascii c
  revert written
  generalize writeChar ascii c = text
  intro written
  cases written with
  | plain wide quote backslash => exact readString_plain wide quote backslash
  | letter known => exact readString_letter known
  | unit narrow alone _ same => exact same ▸ readString_unit narrow alone further
  | pair first second same =>
    rw [List.append_assoc, readString_pair first second further, same]

/-! ## Strings -/

/-- A string reads back from behind its opening quote. -/
theorem readString_written (ascii : Bool) (chars : List Char) :
    readString opening seen (chars.flatMap (writeChar ascii) ++ '"' :: more) =
      .ok (String.ofList (seen.reverse ++ chars), more) := by
  induction chars generalizing seen with
  | nil => simp [readString_quote]
  | cons c rest ih =>
    rw [List.flatMap_cons, List.append_assoc, readString_writeChar ascii (by simp), ih]
    simp

/-! ## Surrogate pairs -/

/-- Pieces of text that do not end between the halves of a pair, nor hold only one of them. -/
def Paired (piece : List Char) : Prop := ∀ rest, writesHalf (piece ++ rest) = writesHalf rest

theorem paired_nil : Paired [] := fun _ => rfl

theorem Paired.append {first second : List Char} (one : Paired first) (other : Paired second) :
    Paired (first ++ second) := fun rest => by
  rw [List.append_assoc, one, other]

theorem paired_of_plain {piece : List Char} (plain : '\\' ∉ piece) : Paired piece := by
  induction piece with
  | nil => exact paired_nil
  | cons c piece ih =>
    simp only [List.mem_cons, not_or] at plain
    have step (text : List Char) : writesHalf (c :: text) = writesHalf text := by
      simp [writesHalf, Ne.symm plain.1]
    intro rest
    rw [List.cons_append, step, ih plain.2]

theorem writeUnit_paired {unit : Nat} (narrow : unit < 0x10000) (notHigh : isHighSurrogate unit = false)
    (notLow : isLowSurrogate unit = false) : Paired (writeUnit unit) := by
  intro rest
  by_cases another : ∃ e f g h tail, rest = '\\' :: 'u' :: e :: f :: g :: h :: tail
  · obtain ⟨e, f, g, h, tail, rfl⟩ := another
    simp [writeUnit, writesHalf, codeUnit?_written narrow, notHigh, notLow]
  · simp only [writeUnit, List.cons_append, List.nil_append]
    rw [writesHalf.eq_3 _ _ _ _ _ fun e f g h tail same => another ⟨e, f, g, h, tail, same⟩,
      codeUnit?_written narrow]
    simp [notHigh, notLow]

theorem Writes.paired {piece : List Char} (writes : Writes c piece) : Paired piece := by
  cases writes with
  | plain _ _ backslash => exact paired_of_plain (by simpa using Ne.symm backslash)
  | letter known =>
    rename_i letter
    have other : letter ≠ 'u' := by
      rintro rfl
      cases known
    intro rest
    simp [writesHalf, other]
  | unit narrow notHigh notLow _ => exact writeUnit_paired narrow notHigh notLow
  | pair first second _ =>
    obtain ⟨narrow, narrow'⟩ := halves_narrow first second
    intro rest
    simp [writeUnit, writesHalf, codeUnit?_written narrow, codeUnit?_written narrow', first, second]

theorem writeString_paired (ascii : Bool) (s : String) : Paired (writeString ascii s) := by
  have inside (chars : List Char) : Paired (chars.flatMap (writeChar ascii)) := by
    induction chars with
    | nil => exact paired_nil
    | cons c chars ih =>
      rw [List.flatMap_cons]
      exact (writeChar_writes ascii c).paired.append ih
  rw [writeString, ← List.singleton_append]
  exact (paired_of_plain (by decide)).append ((inside _).append (paired_of_plain (by decide)))

end Curation.Json
