import Curation.Json.Reader
import Curation.Proofs.Json.Value

/-! What the reader makes. The values that it reads name each member of an object once, and
their numbers are those of literals and the three words for numbers without digits. -/
namespace Curation.Json

/-- The numbers that texts can write. -/
inductive Literal : Number → Prop
  | nan : Literal (.real .nan)
  | infinity (negative : Bool) : Literal (.real (.infinity negative))
  | digits (negative : Bool) (whole fraction : List Char) (exponent : Option Int) :
    Literal (numberOf negative whole fraction exponent)

/-- The result of one step leads into the next. -/
theorem bind_ok {ε α β : Type} {x : Except ε α} {f : α → Except ε β} {b : β} :
    (x >>= f) = .ok b ↔ ∃ a, x = .ok a ∧ f a = .ok b := by
  cases x with
  | error e => exact ⟨nofun, fun ⟨_, same, _⟩ => nomatch same⟩
  | ok a => exact ⟨fun same => ⟨a, rfl, same⟩, fun ⟨_, same, out⟩ => by cases same; exact out⟩

theorem readNumber_literal {text rest : List Char} {value : Json}
    (read : readNumber text = .ok (value, rest)) : value.Over Literal := by
  unfold readNumber at read
  simp only at read
  split at read
  · cases read
  · cases read
    exact .digits _ _ _ _

theorem readScalar_literal {text rest : List Char} {value : Json}
    (read : readScalar text = .ok (value, rest)) : value.Over Literal := by
  unfold readScalar at read
  split at read
  case h_7 => exact readNumber_literal read
  all_goals cases read
  all_goals first | exact trivial | exact .nan | exact .infinity _

mutual
/-- The fuel is what the recursion is on. -/
theorem readValue_literal : ∀ {fuel : Nat} {text rest : List Char} {value : Json},
    readValue fuel text = .ok (value, rest) → value.Over Literal
  | 0, _, _, _, read => nomatch read
  | fuel + 1, text, rest, value, read => by
    unfold readValue at read
    split at read
    · obtain ⟨_, _, made⟩ := bind_ok.mp read
      cases made
      exact trivial
    · split at read
      · cases read
        exact trivial
      · obtain ⟨_, items, made⟩ := bind_ok.mp read
        cases made
        exact readItems_literal items
    · split at read
      · cases read
        exact ⟨List.nodup_nil, trivial⟩
      · obtain ⟨_, pairs, made⟩ := bind_ok.mp read
        cases made
        exact Members.ofPairs_over (readPairs_literal pairs)
    · exact readScalar_literal read

theorem readItems_literal : ∀ {fuel : Nat} {text rest : List Char} {items : List Json},
    readItems fuel text = .ok (items, rest) → OverItems Literal items
  | 0, _, _, _, read => nomatch read
  | fuel + 1, text, rest, items, read => by
    unfold readItems at read
    obtain ⟨⟨item, behind⟩, own, more⟩ := bind_ok.mp read
    simp only at more
    split at more
    · cases more
      exact ⟨readValue_literal own, trivial⟩
    · obtain ⟨_, others, made⟩ := bind_ok.mp more
      cases made
      exact ⟨readValue_literal own, readItems_literal others⟩
    · cases more

theorem readPairs_literal : ∀ {fuel : Nat} {text rest : List Char} {pairs : Members},
    readPairs fuel text = .ok (pairs, rest) → OverMembers Literal pairs
  | 0, _, _, _, read => nomatch read
  | fuel + 1, text, rest, pairs, read => by
    unfold readPairs at read
    split at read
    · obtain ⟨⟨name, after⟩, _, named⟩ := bind_ok.mp read
      simp only at named
      split at named
      · obtain ⟨⟨value, behind⟩, own, more⟩ := bind_ok.mp named
        simp only at more
        split at more
        · cases more
          exact ⟨readValue_literal own, trivial⟩
        · obtain ⟨_, others, made⟩ := bind_ok.mp more
          cases made
          exact ⟨readValue_literal own, readPairs_literal others⟩
        · cases more
      · cases named
    · cases read
end

theorem read_literal {text : String} {value : Json} (read : Json.read text = .ok value) :
    value.Over Literal := by
  unfold Json.read at read
  simp only at read
  split at read
  · cases read
  · obtain ⟨⟨_, behind⟩, own, more⟩ := bind_ok.mp read
    split at more
    · cases more
      exact readValue_literal own
    · cases more

theorem value?_literal {text : String} {value : Json} (read : value? text = some value) :
    value.Over Literal := by
  unfold value? at read
  split at read
  · cases read
  · cases whole : Json.read text with
    | error fault => simp [whole, Except.toOption] at read
    | ok made =>
      simp only [whole, Except.toOption, Option.some.injEq] at read
      exact read ▸ read_literal whole

end Curation.Json
