import Curation.Proofs.Store.Configurations

/-! Bypass lists in the store. A user who is not listed yet is put behind the others, and the text
that is written reads as the list with the user at its end; a user who is listed already changes
nothing. -/
namespace Curation.Store.ChannelRow

variable {row row' : ChannelRow} {option : UserOption} {now later : Moment} {fid : Int}
  {entries more : List Json} {value : Json}

/-! ## Entries -/

/-- Nobody is found among values that are no entries. -/
theorem lists_texts {text : String} {rest : List Json} : lists fid (.str text :: rest) ≠ .ok false := nofun

/-- A list in which nobody was found is read to its end, and then what stands behind it. -/
theorem lists_append (absent : lists fid entries = .ok false) : lists fid (entries ++ more) = lists fid more := by
  induction entries with
  | nil => rfl
  | cons entry rest ih =>
    simp only [List.cons_append, lists, bind, Except.bind] at absent ⊢
    cases there : entry.entry "value" with
    | error cause =>
      rw [there] at absent
      cases absent
    | ok value =>
      rw [there] at absent
      simp only at absent ⊢
      cases whole : value.toWhole with
      | error cause =>
        rw [whole] at absent
        cases absent
      | ok listed =>
        rw [whole] at absent
        simp only at absent ⊢
        by_cases same : listed = fid
        · simp [same, pure, Except.pure] at absent
        · simp only [same, if_false] at absent ⊢
          exact ih absent

theorem lists_option (option : UserOption) : lists option.value [option.toJson] = .ok true := by
  have there : option.toJson.entry "value" = .ok (.int option.value) := rfl
  have whole : (Json.int option.value).toWhole = .ok option.value := rfl
  simp [lists, there, whole, bind, Except.bind, pure, Except.pure]

/-- What can be gone through to its end is a list: an object gives its names and a text its
characters, and neither are entries. -/
theorem orElse_of_lists (items : (value.orElse (.arr [])).items = .ok entries)
    (absent : lists fid entries = .ok false) : value.orElse (.arr []) = .arr entries := by
  by_cases set : value.truthy = true
  · rw [Json.orElse, if_pos set] at items ⊢
    cases value with
    | null | bool | number => cases items
    | arr listed =>
      cases items
      rfl
    | obj members =>
      cases members with
      | nil => cases set
      | cons member members =>
        cases items
        exact absurd absent lists_texts
    | str text =>
      cases characters : text.toList with
      | nil => simp [Json.truthy, String.toList_eq_nil_iff.mp characters] at set
      | cons c rest =>
        rw [Json.items, characters] at items
        cases items
        exact absurd absent lists_texts
  · rw [Json.orElse, if_neg set] at items ⊢
    cases items
    rfl

theorem stored_proper {text : Option String} (read : stored text = .ok value) : value.Proper := by
  unfold stored at read
  split at read
  · cases read
    trivial
  · cases read
    trivial
  · split at read
    · rename_i there
      cases read
      exact Json.read_proper there
    · cases read

/-! ## Putting a user on a list -/

/-- The row reads as a list of these entries. -/
def Lists (row : ChannelRow) (entries : List Json) : Prop :=
  ∃ value, stored (some row.bypassed) = .ok value ∧ value.orElse (.arr []) = .arr entries

theorem Lists.proper (reads : row.Lists entries) : (Json.arr entries).Proper := by
  obtain ⟨value, read, listed⟩ := reads
  rw [Json.orElse] at listed
  split at listed
  · rw [← listed]
    exact stored_proper read
  · rw [← listed]
    trivial

theorem lists_of_spaced (proper : (Json.arr entries).Proper) (written : row.bypassed = (Json.arr entries).spaced) :
    row.Lists entries := by
  refine ⟨.arr entries, ?_, arr_orElse entries⟩
  rw [written]
  exact stored_written proper

/-- The row with one more entry. -/
def adding (row : ChannelRow) (entries : List Json) (option : UserOption) (now : Moment) : ChannelRow :=
  { row with bypassed := (Json.arr (entries ++ [option.toJson])).spaced, updatedAt := now.stored }

theorem Lists.adding (reads : row.Lists entries) (option : UserOption) (now : Moment) :
    (row.adding entries option now).Lists (entries ++ [option.toJson]) := by
  refine lists_of_spaced (Json.overItems_iff.mpr fun entry member => ?_) rfl
  rcases List.mem_append.mp member with old | new
  · exact Json.overItems_iff.mp reads.proper entry old
  · rw [List.mem_singleton.mp new]
    exact option.toJson_proper

theorem withBypass?_of_lists (reads : row.Lists entries) (option : UserOption) (now : Moment) :
    row.withBypass? option now =
      match lists option.value entries with
      | .ok true => .ok none
      | .ok false => .ok (some (row.adding entries option now))
      | .error cause => .error (.misuse cause) := by
  obtain ⟨value, read, listed⟩ := reads
  simp only [withBypass?, read, bind, Except.bind, listed, Json.items]
  cases lists option.value entries with
  | error cause => rfl
  | ok found => cases found <;> rfl

/-- What is found on a list does not depend on the time: a list of others, or the user. -/
theorem withBypass?_found (row : ChannelRow) (option : UserOption) :
    ∃ found : Except Failure (Option (List Json)),
      (∀ now, row.withBypass? option now = found.map (·.map (row.adding · option now))) ∧
      ∀ entries, found = .ok (some entries) → row.Lists entries ∧ lists option.value entries = .ok false := by
  cases read : stored (some row.bypassed) with
  | error failure => exact ⟨.error failure, by simp [withBypass?, read, bind, Except.bind, Except.map], nofun⟩
  | ok value =>
    simp only [withBypass?, read, bind, Except.bind]
    cases items : (value.orElse (.arr [])).items with
    | error cause => exact ⟨.error (.misuse cause), fun _ => rfl, nofun⟩
    | ok entries =>
      simp only
      cases found : lists option.value entries with
      | error cause => exact ⟨.error (.misuse cause), fun _ => rfl, nofun⟩
      | ok listed =>
        cases listed with
        | true => exact ⟨.ok none, fun _ => rfl, nofun⟩
        | false =>
          refine ⟨.ok (some entries), fun _ => rfl, ?_⟩
          rintro _ ⟨⟩
          exact ⟨⟨value, read, orElse_of_lists items found⟩, found⟩

/-- A user who is added stands behind a list of others. -/
theorem withBypass?_added (added : row.withBypass? option now = .ok (some row')) :
    ∃ entries, row.Lists entries ∧ lists option.value entries = .ok false ∧
      row' = row.adding entries option now := by
  obtain ⟨found, at_, whole⟩ := withBypass?_found row option
  rw [at_ now] at added
  match found, added with
  | .ok (some entries), rfl => exact ⟨entries, (whole entries rfl).1, (whole entries rfl).2, rfl⟩

/-- Who was added is listed. -/
theorem withBypass?_again (added : row.withBypass? option now = .ok (some row')) (later : Moment) :
    row'.withBypass? option later = .ok none := by
  obtain ⟨entries, reads, absent, rfl⟩ := withBypass?_added added
  rw [withBypass?_of_lists (reads.adding option now), lists_append absent, lists_option]

/-- Who is listed stays so. -/
theorem withBypass?_none (listed : row.withBypass? option now = .ok none) (later : Moment) :
    row.withBypass? option later = .ok none := by
  obtain ⟨found, at_, -⟩ := withBypass?_found row option
  rw [at_ now] at listed
  match found, listed with
  | .ok none, _ => exact at_ later

end Curation.Store.ChannelRow
