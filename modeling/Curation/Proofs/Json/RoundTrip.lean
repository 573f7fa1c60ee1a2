import Curation.Proofs.Json.Strings
import Curation.Proofs.Json.Value

/-! Texts read back. What the writer makes of a value is read as the value, in every layout
that puts a comma between items and a colon behind names. The numbers are taken on trust
here: one is legible when its own text reads as it in front of whatever may follow. -/
namespace Curation

namespace Json

/-- Texts that do not go on with a number in front of them. -/
def EndsNumber : List Char → Prop
  | [] => True
  | c :: _ => isDigit c = false ∧ c ≠ '.' ∧ c ≠ 'e' ∧ c ≠ 'E'

/-- Characters that values without parts begin with. -/
def startsScalar (c : Char) : Bool := isDigit c || ['-', 'n', 't', 'f', 'N', 'I'].contains c

end Json

/-- A number whose text reads as it. -/
structure Number.Legible (n : Number) : Prop where
  reads : ∀ rest, Json.EndsNumber rest →
    Json.readScalar (Json.writeNumber n ++ rest) = .ok (.number n, rest)
  starts : ∃ c text, Json.writeNumber n = c :: text ∧ Json.startsScalar c = true
  plain : '\\' ∉ Json.writeNumber n

namespace Json

/-- Layouts that other readers understand too. -/
structure Layout.Standard (layout : Layout) : Prop where
  item : ∃ blanks, layout.item = ',' :: blanks ∧ blanks.all isBlank = true
  member : ∃ blanks, layout.member = ':' :: blanks ∧ blanks.all isBlank = true

theorem Layout.standard_compact : compact.Standard := ⟨⟨[], rfl, rfl⟩, ⟨[], rfl, rfl⟩⟩

theorem Layout.standard_spaced : spaced.Standard := ⟨⟨[' '], rfl, rfl⟩, ⟨[' '], rfl, rfl⟩⟩

theorem Layout.standard_unescaped : unescaped.Standard := ⟨⟨[], rfl, rfl⟩, ⟨[], rfl, rfl⟩⟩

variable {layout : Layout} {rest more : List Char} {c : Char}

theorem skipBlank_blanks {blanks : List Char} (all : blanks.all isBlank = true) :
    skipBlank (blanks ++ rest) = skipBlank rest := by
  induction blanks with
  | nil => rfl
  | cons c blanks ih =>
    simp only [List.all_cons, Bool.and_eq_true] at all
    simp only [skipBlank, List.cons_append, List.dropWhile_cons, all.1, if_true]
    exact ih all.2

theorem skipBlank_cons (solid : isBlank c = false) : skipBlank (c :: rest) = c :: rest := by
  simp [skipBlank, solid]

/-- Characters that a written value begins with. -/
def startsValue (c : Char) : Bool := startsScalar c || ['"', '[', '\x7b'].contains c

theorem startsValue_solid (starts : startsValue c = true) :
    isBlank c = false ∧ c ≠ ']' ∧ c ≠ '\x7d' := by
  refine ⟨?_, ?_, ?_⟩
  · refine Bool.eq_false_iff.mpr fun blank => ?_
    have blank : ((c = ' ' ∨ c = '\t') ∨ c = '\n') ∨ c = '\r' := by simpa [isBlank] using blank
    obtain ((rfl | rfl) | rfl) | rfl := blank <;> exact absurd starts (by decide)
  · rintro rfl
    exact absurd starts (by decide)
  · rintro rfl
    exact absurd starts (by decide)

theorem startsScalar_part (starts : startsScalar c = true) : c ≠ '"' ∧ c ≠ '[' ∧ c ≠ '\x7b' := by
  refine ⟨?_, ?_, ?_⟩ <;> (rintro rfl; exact absurd starts (by decide))

theorem writeValue_starts (layout : Layout) {value : Json} (legible : value.Over Number.Legible) :
    ∃ c text, writeValue layout value = c :: text ∧ startsValue c = true := by
  cases value with
  | null => exact ⟨_, _, rfl, by decide⟩
  | bool b => cases b <;> exact ⟨_, _, rfl, by decide⟩
  | number n =>
    obtain ⟨c, text, written, starts⟩ := Number.Legible.starts legible
    exact ⟨c, text, written, by rw [startsValue, starts, Bool.true_or]⟩
  | str s => exact ⟨_, _, rfl, by decide⟩
  | arr items => exact ⟨_, _, rfl, by decide⟩
  | obj members => exact ⟨_, _, rfl, by decide⟩

theorem writeItems_starts (layout : Layout) {item : Json} (items : List Json)
    (legible : item.Over Number.Legible) :
    ∃ c text, writeItems layout (item :: items) = c :: text ∧ startsValue c = true := by
  obtain ⟨c, text, written, starts⟩ := writeValue_starts layout legible
  cases items with
  | nil => exact ⟨c, text, written, starts⟩
  | cons next rest =>
    exact ⟨c, text ++ layout.item ++ writeItems layout (next :: rest), by simp [writeItems, written], starts⟩

theorem writeItems_next (layout : Layout) (item next : Json) (items : List Json) :
    writeItems layout (item :: next :: items) =
      writeValue layout item ++ layout.item ++ writeItems layout (next :: items) := by
  rw [writeItems]
  exact nofun

theorem writeMembers_next (layout : Layout) (name : String) (value : Json) (next : String × Json)
    (members : Members) :
    writeMembers layout ((name, value) :: next :: members) =
      writeString layout.ascii name ++ layout.member ++ writeValue layout value ++ layout.item ++
        writeMembers layout (next :: members) := by
  rw [writeMembers]
  exact nofun

theorem writeMembers_starts (layout : Layout) (name : String) (value : Json) (members : Members) :
    ∃ text, writeMembers layout ((name, value) :: members) = '"' :: text := by
  cases members with
  | nil => exact ⟨_, rfl⟩
  | cons member rest => exact ⟨_, rfl⟩

/-! ## Steps of the reader -/

theorem readValue_scalar {fuel : Nat} (starts : startsScalar c = true) :
    readValue (fuel + 1) (c :: rest) = readScalar (c :: rest) := by
  obtain ⟨quote, bracket, brace⟩ := startsScalar_part starts
  simp [readValue, quote, bracket, brace]

theorem readValue_string (ascii : Bool) (s : String) {fuel : Nat} :
    readValue (fuel + 1) (writeString ascii s ++ rest) = .ok (.str s, rest) := by
  simp only [writeString, List.cons_append, List.append_assoc, List.nil_append, readValue,
    readString_written]
  simp [bind, Except.bind, pure, Except.pure]

theorem readValue_list {fuel : Nat} {items : List Json} {text : List Char} (solid : isBlank c = false)
    (inside : c ≠ ']') (read : readItems fuel (c :: text) = .ok (items, rest)) :
    readValue (fuel + 1) ('[' :: c :: text) = .ok (.arr items, rest) := by
  simp only [readValue, skipBlank_cons solid]
  split
  · simp_all
  · rw [read]
    rfl

theorem readValue_object {fuel : Nat} {pairs : Members} {text : List Char} (solid : isBlank c = false)
    (inside : c ≠ '\x7d') (read : readPairs fuel (c :: text) = .ok (pairs, rest)) :
    readValue (fuel + 1) ('\x7b' :: c :: text) = .ok (.obj (Members.ofPairs pairs), rest) := by
  simp only [readValue, skipBlank_cons solid]
  split
  · simp_all
  · rw [read]
    rfl

theorem readItems_last {fuel : Nat} {item : Json} {text : List Char}
    (read : readValue fuel text = .ok (item, ']' :: rest)) :
    readItems (fuel + 1) text = .ok ([item], rest) := by
  rw [readItems, read]
  rfl

theorem readItems_next {fuel : Nat} {item : Json} {items : List Json} {text : List Char}
    (read : readValue fuel text = .ok (item, ',' :: more))
    (others : readItems fuel (skipBlank more) = .ok (items, rest)) :
    readItems (fuel + 1) text = .ok (item :: items, rest) := by
  rw [readItems, read]
  simp only [bind, Except.bind, skipBlank_cons (c := ',') rfl, others]
  rfl

theorem readPairs_last {fuel : Nat} (name : String) {value : Json} {text : List Char} (ascii : Bool)
    (read : readValue fuel (skipBlank text) = .ok (value, '\x7d' :: rest)) :
    readPairs (fuel + 1) (writeString ascii name ++ ':' :: text) = .ok ([(name, value)], rest) := by
  simp only [writeString, List.cons_append, List.append_assoc, List.nil_append, readPairs, readString_written,
    bind, Except.bind, skipBlank_cons (c := ':') rfl, read, skipBlank_cons (c := '\x7d') rfl]
  simp [pure, Except.pure]

theorem readPairs_next {fuel : Nat} (name : String) {value : Json} {members : Members} {text : List Char}
    (ascii : Bool) (read : readValue fuel (skipBlank text) = .ok (value, ',' :: more))
    (others : readPairs fuel (skipBlank more) = .ok (members, rest)) :
    readPairs (fuel + 1) (writeString ascii name ++ ':' :: text) = .ok ((name, value) :: members, rest) := by
  simp only [writeString, List.cons_append, List.append_assoc, List.nil_append, readPairs, readString_written,
    bind, Except.bind, skipBlank_cons (c := ':') rfl, read, skipBlank_cons (c := ',') rfl, others]
  simp [pure, Except.pure]

/-! ## Values -/

theorem ends_comma (rest : List Char) : EndsNumber (',' :: rest) := by simp [EndsNumber, isDigit]

theorem ends_bracket (rest : List Char) : EndsNumber (']' :: rest) := by simp [EndsNumber, isDigit]

theorem ends_brace (rest : List Char) : EndsNumber ('\x7d' :: rest) := by simp [EndsNumber, isDigit]

theorem Layout.Standard.item_length (standard : layout.Standard) : 1 ≤ layout.item.length := by
  obtain ⟨blanks, item, _⟩ := standard.item
  simp [item]

theorem Layout.Standard.skip_item (standard : layout.Standard) (solid : isBlank c = false) (rest : List Char) :
    ∃ blanks, layout.item ++ c :: rest = ',' :: (blanks ++ c :: rest) ∧
      skipBlank (blanks ++ c :: rest) = c :: rest := by
  obtain ⟨blanks, item, all⟩ := standard.item
  exact ⟨blanks, by rw [item, List.cons_append], by rw [skipBlank_blanks all, skipBlank_cons solid]⟩

theorem Layout.Standard.skip_member (standard : layout.Standard) (solid : isBlank c = false) (rest : List Char) :
    ∃ blanks, layout.member ++ c :: rest = ':' :: (blanks ++ c :: rest) ∧
      skipBlank (blanks ++ c :: rest) = c :: rest := by
  obtain ⟨blanks, member, all⟩ := standard.member
  exact ⟨blanks, by rw [member, List.cons_append], by rw [skipBlank_blanks all, skipBlank_cons solid]⟩

mutual
/-- A written value reads as itself and leaves what stands behind it. The recursion is on the
value; each call of the reader uses up at least one character of the fuel. -/
theorem readValue_written (standard : layout.Standard) : ∀ {value : Json} (fuel : Nat) {rest : List Char},
    value.Over Number.Legible → EndsNumber rest → (writeValue layout value).length ≤ fuel →
    readValue fuel (writeValue layout value ++ rest) = .ok (value, rest)
  | value, 0, rest, legible, _, enough => by
    obtain ⟨_, _, written, _⟩ := writeValue_starts layout legible
    simp [written] at enough
  | .null, _ + 1, _, _, _, _ | .bool true, _ + 1, _, _, _, _ | .bool false, _ + 1, _, _, _, _ => by
    simp [writeValue, readValue, readScalar]
  | .number n, fuel + 1, rest, legible, ends, _ => by
    obtain ⟨c, text, written, starts⟩ := Number.Legible.starts legible
    have reads := Number.Legible.reads legible rest ends
    rw [writeValue, written, List.cons_append, readValue_scalar starts, ← List.cons_append, ← written, reads]
  | .str s, fuel + 1, rest, _, _, _ => readValue_string layout.ascii s
  | .arr [], fuel + 1, rest, _, _, _ => by
    simp [writeValue, writeItems, readValue, skipBlank_cons (c := ']') rfl]
  | .arr (item :: items), fuel + 1, rest, legible, _, enough => by
    obtain ⟨c, text, written, starts⟩ := writeItems_starts layout items legible.1
    obtain ⟨solid, inside, _⟩ := startsValue_solid starts
    have read := readItems_written standard fuel rest legible.1 legible.2 (by
      simp only [writeValue, List.length_cons, List.length_append, List.length_nil] at enough
      omega)
    rw [written] at read
    rw [writeValue, written]
    simpa using readValue_list solid inside (by simpa using read)
  | .obj [], fuel + 1, rest, _, _, _ => by
    simp [writeValue, writeMembers, readValue, skipBlank_cons (c := '\x7d') rfl]
  | .obj ((name, value) :: members), fuel + 1, rest, legible, _, enough => by
    obtain ⟨text, written⟩ := writeMembers_starts layout name value members
    have read := readPairs_written standard name fuel rest legible.2.1 legible.2.2 (by
      simp only [writeValue, List.length_cons, List.length_append, List.length_nil] at enough
      omega)
    rw [written] at read
    rw [writeValue, written]
    have whole := readValue_object (c := '"') rfl (by decide) (by simpa using read)
    rw [Members.ofPairs_of_nodup legible.1] at whole
    simpa using whole

theorem readItems_written (standard : layout.Standard) :
    ∀ {item : Json} {items : List Json} (fuel : Nat) (rest : List Char),
    item.Over Number.Legible → OverItems Number.Legible items →
    (writeItems layout (item :: items)).length + 1 ≤ fuel →
    readItems fuel (writeItems layout (item :: items) ++ ']' :: rest) = .ok (item :: items, rest)
  | _, _, 0, _, _, _, enough => by omega
  | item, [], fuel + 1, rest, legible, _, enough => by
    apply readItems_last
    rw [writeItems]
    exact readValue_written standard fuel legible (ends_bracket rest) (by simpa [writeItems] using enough)
  | item, next :: items, fuel + 1, rest, legible, others, enough => by
    simp only [writeItems, List.length_append] at enough
    obtain ⟨c, text, written, starts⟩ := writeItems_starts layout items others.1
    obtain ⟨blanks, separated, skipped⟩ :=
      standard.skip_item (startsValue_solid starts).1 (text ++ ']' :: rest)
    have own := readValue_written standard fuel legible
      (ends_comma (blanks ++ c :: (text ++ ']' :: rest))) (by omega)
    have later := readItems_written standard fuel rest others.1 others.2 (by
      have := standard.item_length
      omega)
    rw [written, List.cons_append, ← skipped] at later
    rw [writeItems_next, written]
    simpa [separated] using readItems_next own later

theorem readPairs_written (standard : layout.Standard) :
    ∀ (name : String) {value : Json} {members : Members} (fuel : Nat) (rest : List Char),
    value.Over Number.Legible → OverMembers Number.Legible members →
    (writeMembers layout ((name, value) :: members)).length + 1 ≤ fuel →
    readPairs fuel (writeMembers layout ((name, value) :: members) ++ '\x7d' :: rest) =
      .ok ((name, value) :: members, rest)
  | _, _, _, 0, _, _, _, enough => by omega
  | name, value, [], fuel + 1, rest, legible, _, enough => by
    simp only [writeMembers, List.length_append] at enough
    obtain ⟨c, text, written, starts⟩ := writeValue_starts layout legible
    obtain ⟨blanks, separated, skipped⟩ :=
      standard.skip_member (startsValue_solid starts).1 (text ++ '\x7d' :: rest)
    have own := readValue_written standard fuel legible (ends_brace rest) (by omega)
    rw [written, List.cons_append, ← skipped] at own
    rw [writeMembers, written]
    simpa [separated] using readPairs_last name layout.ascii own
  | name, value, (name', value') :: members, fuel + 1, rest, legible, others, enough => by
    simp only [writeMembers, List.length_append] at enough
    obtain ⟨c, text, written, starts⟩ := writeValue_starts layout legible
    obtain ⟨text', written'⟩ := writeMembers_starts layout name' value' members
    obtain ⟨blanks', separated', skipped'⟩ :=
      standard.skip_item (c := '"') rfl (text' ++ '\x7d' :: rest)
    obtain ⟨blanks, separated, skipped⟩ :=
      standard.skip_member (startsValue_solid starts).1
        (text ++ (layout.item ++ '"' :: (text' ++ '\x7d' :: rest)))
    have own := readValue_written standard fuel legible
      (ends_comma (blanks' ++ '"' :: (text' ++ '\x7d' :: rest))) (by omega)
    have later := readPairs_written standard name' fuel rest others.1 others.2 (by
      have := standard.item_length
      omega)
    rw [written', List.cons_append, ← skipped'] at later
    rw [← separated', written, List.cons_append, ← skipped] at own
    rw [separated'] at own separated
    rw [writeMembers_next, written, written']
    simpa [separated, separated'] using readPairs_next name layout.ascii own later
end

/-! ## Texts -/

/-- A written value reads as itself. -/
theorem read_written (standard : layout.Standard) {value : Json} (legible : value.Over Number.Legible) :
    read (String.ofList (writeValue layout value)) = .ok value := by
  obtain ⟨c, text, written, starts⟩ := writeValue_starts layout legible
  have own : readValue _ (writeValue layout value ++ []) = _ :=
    readValue_written standard _ legible trivial (Nat.le_succ _)
  rw [List.append_nil] at own
  have marked : c ≠ '\ufeff' := by
    rintro rfl
    exact absurd starts (by decide)
  have skipped : skipBlank (writeValue layout value) = writeValue layout value := by
    rw [written, skipBlank_cons (startsValue_solid starts).1]
  rw [Json.read]
  simp only [String.toList_ofList, skipped, own]
  rw [written]
  simp [marked, bind, Except.bind, skipBlank, pure, Except.pure]

/-! ## Surrogate pairs -/

theorem Layout.Standard.paired (standard : layout.Standard) : Paired layout.item ∧ Paired layout.member := by
  obtain ⟨blanks, item, all⟩ := standard.item
  obtain ⟨blanks', member, all'⟩ := standard.member
  have plain {blanks : List Char} (all : blanks.all isBlank = true) : '\\' ∉ blanks :=
    fun inside => absurd (List.all_eq_true.mp all _ inside) (by decide)
  refine ⟨paired_of_plain ?_, paired_of_plain ?_⟩
  · simpa [item] using plain all
  · simpa [member] using plain all'

mutual
theorem writeValue_paired (standard : layout.Standard) :
    ∀ {value : Json}, value.Over Number.Legible → Paired (writeValue layout value)
  | .null, _ | .bool true, _ | .bool false, _ => paired_of_plain (by simp [writeValue])
  | .number _, legible => paired_of_plain (Number.Legible.plain legible)
  | .str s, _ => writeString_paired layout.ascii s
  | .arr _, legible => by
    rw [writeValue, ← List.singleton_append]
    exact (paired_of_plain (by decide)).append
      ((writeItems_paired standard legible).append (paired_of_plain (by decide)))
  | .obj _, legible => by
    rw [writeValue, ← List.singleton_append]
    exact (paired_of_plain (by decide)).append
      ((writeMembers_paired standard legible.2).append (paired_of_plain (by decide)))

theorem writeItems_paired (standard : layout.Standard) :
    ∀ {items : List Json}, OverItems Number.Legible items → Paired (writeItems layout items)
  | [], _ => paired_nil
  | [_], legible => writeValue_paired standard legible.1
  | item :: next :: items, legible => by
    rw [writeItems_next]
    exact ((writeValue_paired standard legible.1).append standard.paired.1).append
      (writeItems_paired standard legible.2)

theorem writeMembers_paired (standard : layout.Standard) :
    ∀ {members : Members}, OverMembers Number.Legible members → Paired (writeMembers layout members)
  | [], _ => paired_nil
  | [(name, _)], legible =>
    ((writeString_paired layout.ascii name).append standard.paired.2).append
      (writeValue_paired standard legible.1)
  | (name, _) :: next :: members, legible => by
    rw [writeMembers_next]
    exact ((((writeString_paired layout.ascii name).append standard.paired.2).append
      (writeValue_paired standard legible.1)).append standard.paired.1).append
      (writeMembers_paired standard legible.2)
end

/-- A written value is read whole, with no half of a pair in its text. -/
theorem value?_written (standard : layout.Standard) {value : Json} (legible : value.Over Number.Legible) :
    value? (String.ofList (writeValue layout value)) = some value := by
  have whole : writesHalf (writeValue layout value) = false := by
    have := writeValue_paired standard legible []
    rwa [List.append_nil] at this
  rw [value?, String.toList_ofList, whole, read_written standard legible]
  rfl

end Json

end Curation
