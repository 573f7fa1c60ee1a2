import Mathlib.Data.List.Forall2
import Curation.Decode.Scalar

/-! When checks succeed. A check that is put together from others succeeds exactly when all
of them do, so what a decoder accepts can be read off field by field. -/
namespace Curation.Decode

namespace Checked

variable {α β γ : Type}

@[simp] theorem pure_eq (value : α) : (pure value : Checked α) = .ok value := rfl

theorem map_map (g : β → γ) (f : α → β) (x : Checked α) : g <$> f <$> x = (fun a => g (f a)) <$> x := by
  cases x with
  | ok | bad => rfl

theorem map_seq (g : β → γ) (f : Checked (α → β)) (x : Checked α) :
    g <$> (f <*> x) = (fun h a => g (h a)) <$> f <*> x := by
  cases f with
  | ok | bad =>
    cases x with
    | ok | bad => rfl

@[simp] theorem map_eq_ok {f : α → β} {x : Checked α} {b : β} :
    f <$> x = .ok b ↔ ∃ a, x = .ok a ∧ f a = b := by
  cases x with
  | ok a =>
    refine ⟨fun same => ⟨a, rfl, Checked.ok.inj same⟩, ?_⟩
    rintro ⟨_, same, rfl⟩
    cases same
    rfl
  | bad issues => exact ⟨nofun, fun ⟨_, same, _⟩ => nomatch same⟩

@[simp] theorem seq_eq_ok {f : Checked (α → β)} {x : Checked α} {b : β} :
    f <*> x = .ok b ↔ ∃ g, f = .ok g ∧ ∃ a, x = .ok a ∧ g a = b := by
  constructor
  · intro same
    cases f with
    | ok g =>
      cases x with
      | ok a => exact ⟨g, rfl, a, rfl, Checked.ok.inj same⟩
      | bad issues => cases same
    | bad issues => cases x <;> cases same
  · rintro ⟨g, rfl, a, rfl, rfl⟩
    rfl

@[simp] theorem andThen_eq_ok {x : Checked α} {f : α → Checked β} {b : β} :
    x.andThen f = .ok b ↔ ∃ a, x = .ok a ∧ f a = .ok b := by
  cases x with
  | ok a =>
    refine ⟨fun same => ⟨a, rfl, same⟩, ?_⟩
    rintro ⟨_, same, out⟩
    cases same
    exact out
  | bad issues => exact ⟨nofun, fun ⟨_, same, _⟩ => nomatch same⟩

@[simp] theorem under_eq_ok {step : Step} {x : Checked α} {a : α} : x.under step = .ok a ↔ x = .ok a := by
  cases x with
  | ok _ => rfl
  | bad issues => exact ⟨nofun, nofun⟩

@[simp] theorem issue_ne_ok {kind : IssueKind} {a : α} : issue kind ≠ .ok a := nofun

end Checked

variable {α : Type} {name : String} {read : Reader α} {members : Json.Members} {a : α}

/-! ## Fields -/

/-- A field that has to be there is read from what stands under its name. -/
theorem required_eq_ok :
    required [name] read members = .ok a ↔
      ∃ value, Json.Members.get? name members = some value ∧ read value = .ok a := by
  simp only [required, lookup?]
  cases Json.Members.get? name members with
  | none => simp
  | some value => simp

/-- A field that may be absent is read from what stands under its name, or is its standard. -/
theorem optional_eq_ok {absent : α} :
    optional [name] absent read members = .ok a ↔
      (Json.Members.get? name members = none ∧ a = absent) ∨
        ∃ value, Json.Members.get? name members = some value ∧ read value = .ok a := by
  simp only [optional, lookup?]
  cases Json.Members.get? name members with
  | none => simp [eq_comm]
  | some value => simp

/-- Of several names for a field, the one that is used is a member. -/
theorem lookup?_get {names : List String} {value : Json} (found : lookup? members names = some (name, value)) :
    Json.Members.get? name members = some value := by
  induction names with
  | nil => cases found
  | cons first others ih =>
    rw [lookup?] at found
    cases own : Json.Members.get? first members with
    | none =>
      rw [own] at found
      exact ih found
    | some _ =>
      rw [own] at found
      cases found
      exact own

theorem required_member {names : List String} (given : required names read members = .ok a) :
    ∃ name value, Json.Members.get? name members = some value ∧ read value = .ok a := by
  rw [required] at given
  split at given
  · rename_i name value found
    exact ⟨name, value, lookup?_get found, Checked.under_eq_ok.mp given⟩
  · cases given

theorem optional_member {names : List String} {absent : α} (given : optional names absent read members = .ok a) :
    a = absent ∨ ∃ name value, Json.Members.get? name members = some value ∧ read value = .ok a := by
  rw [optional] at given
  split at given
  · rename_i name value found
    exact .inr ⟨name, value, lookup?_get found, Checked.under_eq_ok.mp given⟩
  · exact .inl (Checked.ok.inj given).symm

/-! ## Values -/

theorem record_eq_ok {terms : Terms} {fields : Json.Members → Checked α} {value : Json} :
    record terms fields value = .ok a ↔ ∃ members, value = .obj members ∧ fields members = .ok a := by
  cases value with
  | obj => simp [record]
  | null | bool | number | str | arr => exact ⟨nofun, nofun⟩

theorem tagged_eq_ok {terms : Terms} {tag : String} {kinds : String → Option (Json.Members → Checked α)}
    {value : Json} :
    tagged terms tag kinds value = .ok a ↔ ∃ members name fields, value = .obj members ∧
      Json.Members.get? tag members = some (.str name) ∧ kinds name = some fields ∧ fields members = .ok a := by
  cases value with
  | obj members =>
    rw [tagged]
    split
    · rename_i absent
      simp [absent]
    · rename_i name found
      cases kind : kinds name with
      | none => simp [found, kind]
      | some fields => simp [found, kind]
    · rename_i other unnamed found
      refine ⟨nofun, fun ⟨_, name, _, same, named, _⟩ => ?_⟩
      cases same
      rw [found] at named
      exact absurd (Option.some.inj named) (unnamed name)
  | null | bool | number | str | arr => exact ⟨nofun, nofun⟩

theorem object_eq_ok {value : Json} {members : Json.Members} :
    object value = .ok members ↔ value = .obj members := by
  cases value with
  | obj => simp [object]
  | null | bool | number | str | arr => exact ⟨nofun, nofun⟩

theorem text_eq_ok {value : Json} {s : String} : text value = .ok s ↔ value = .str s := by
  cases value with
  | str => simp [text]
  | null | bool | number | arr | obj => exact ⟨nofun, nofun⟩

theorem someText_eq_ok {value : Json} {s : String} :
    someText value = .ok s ↔ value = .str s ∧ s ≠ "" := by
  simp only [someText, Checked.andThen_eq_ok, text_eq_ok]
  constructor
  · rintro ⟨s, rfl, given⟩
    split at given
    · cases given
    · rename_i full
      cases given
      exact ⟨rfl, by simpa using full⟩
  · rintro ⟨rfl, full⟩
    exact ⟨s, rfl, by simp [full]⟩

theorem wholeAtLeast_le {least n : Int} {value : Json} (given : wholeAtLeast least value = .ok n) : least ≤ n := by
  obtain ⟨n, -, given⟩ := Checked.andThen_eq_ok.mp given
  split at given
  · cases given
  · cases given
    omega

theorem readItemsFrom_eq_ok {position : Nat} {items : List Json} {values : List α} :
    readItemsFrom read position items = .ok values ↔
      List.Forall₂ (fun item value => read item = .ok value) items values := by
  induction items generalizing position values with
  | nil => simp [readItemsFrom, eq_comm]
  | cons item rest ih =>
    simp only [readItemsFrom, Checked.seq_eq_ok, Checked.map_eq_ok, Checked.under_eq_ok, ih,
      List.forall₂_cons_left_iff]
    constructor
    · rintro ⟨_, ⟨value, own, rfl⟩, others, rest, rfl⟩
      exact ⟨value, others, own, rest, rfl⟩
    · rintro ⟨value, others, own, rest, rfl⟩
      exact ⟨_, ⟨value, own, rfl⟩, others, rest, rfl⟩

theorem list_eq_ok {value : Json} {values : List α} :
    list read value = .ok values ↔
      ∃ items, value = .arr items ∧ List.Forall₂ (fun item value => read item = .ok value) items values := by
  cases value with
  | arr items => simp [list, readItemsFrom_eq_ok]
  | null | bool | number | str | obj => exact ⟨nofun, nofun⟩

theorem choice_eq_ok {choices : List (String × α)} {value : Json} :
    choice choices value = .ok a ↔ ∃ s, value = .str s ∧ choices.lookup s = some a := by
  cases value with
  | str s =>
    simp only [choice]
    cases found : choices.lookup s with
    | none => simp [found]
    | some => simp [found]
  | null | bool | number | arr | obj => exact ⟨nofun, nofun⟩

end Curation.Decode
