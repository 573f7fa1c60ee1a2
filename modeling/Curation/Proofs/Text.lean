import Mathlib

/-! Texts that are put together from parts with colons in between, and the texts of whole
numbers among them. -/
namespace Curation.Text

/-- The text of a whole number tells which it is. -/
theorem toString_inj {n m : Int} (same : toString n = toString m) : n = m := by
  rwa [Int.toString_eq_repr, Int.toString_eq_repr, Int.repr_inj] at same

/-- A text without a colon. -/
def IsUnbroken (text : String) : Prop := ':' ∉ text.toList

/-- The text of a whole number has no colon. -/
theorem toString_unbroken (n : Int) : IsUnbroken (toString n) := by
  have digits (n : Nat) : ':' ∉ n.repr.toList := by
    intro listed
    rw [Nat.repr_eq_ofList_toDigits, String.toList_ofList] at listed
    have digit := Nat.isDigit_of_mem_toDigits (by omega) (by omega) listed
    exact absurd digit (by decide)
  unfold IsUnbroken
  rw [Int.toString_eq_repr, Int.repr_eq_if]
  split
  · exact digits _
  · rw [String.toList_append, List.mem_append]
    rintro (sign | listed)
    · exact absurd sign (by decide)
    · exact digits _ listed

private theorem split_first {first first' rest rest' : List Char} (unbroken : ':' ∉ first)
    (unbroken' : ':' ∉ first') (same : first ++ ':' :: rest = first' ++ ':' :: rest') :
    first = first' ∧ rest = rest' := by
  induction first generalizing first' with
  | nil =>
    cases first' with
    | nil => exact ⟨rfl, (List.cons.inj same).2⟩
    | cons char more =>
      obtain ⟨rfl, -⟩ := List.cons.inj same
      exact absurd (List.mem_cons_self ..) unbroken'
  | cons char more ih =>
    cases first' with
    | nil =>
      obtain ⟨rfl, -⟩ := List.cons.inj same
      exact absurd (List.mem_cons_self ..) unbroken
    | cons char' more' =>
      obtain ⟨rfl, tails⟩ := List.cons.inj same
      obtain ⟨rfl, rfl⟩ := ih (fun listed => unbroken (.tail _ listed))
        (fun listed => unbroken' (.tail _ listed)) tails
      exact ⟨rfl, rfl⟩

/-- Two texts around a colon can be told apart if neither of the first has one. -/
theorem colon_first {first first' rest rest' : String} (unbroken : IsUnbroken first)
    (unbroken' : IsUnbroken first') (same : first ++ ":" ++ rest = first' ++ ":" ++ rest') :
    first = first' ∧ rest = rest' := by
  have lists := congrArg String.toList same
  simp only [String.toList_append] at lists
  obtain ⟨heads, tails⟩ := split_first unbroken unbroken'
    (show first.toList ++ ':' :: rest.toList = first'.toList ++ ':' :: rest'.toList by simpa using lists)
  exact ⟨String.toList_inj.mp heads, String.toList_inj.mp tails⟩

/-- Two texts around a colon can be told apart if neither of the last has one. -/
theorem colon_last {first first' rest rest' : String} (unbroken : IsUnbroken rest)
    (unbroken' : IsUnbroken rest') (same : first ++ ":" ++ rest = first' ++ ":" ++ rest') :
    first = first' ∧ rest = rest' := by
  have lists := congrArg (fun text => text.toList.reverse) same
  simp only [String.toList_append, List.reverse_append] at lists
  obtain ⟨tails, heads⟩ := split_first (fun listed => unbroken (List.mem_reverse.mp listed))
    (fun listed => unbroken' (List.mem_reverse.mp listed))
    (show rest.toList.reverse ++ ':' :: first.toList.reverse =
      rest'.toList.reverse ++ ':' :: first'.toList.reverse by simpa using lists)
  exact ⟨String.toList_inj.mp (List.reverse_inj.mp heads), String.toList_inj.mp (List.reverse_inj.mp tails)⟩

end Curation.Text
