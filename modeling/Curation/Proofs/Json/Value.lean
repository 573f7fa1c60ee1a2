import Curation.Json.Basic

/-! Which JSON values texts can write. An object names each member once, and how the numbers
of a value look is told by a property of them. -/
namespace Curation

namespace Json

mutual
/-- Values whose objects name each member once and whose numbers have a property. -/
def Over (P : Number → Prop) : Json → Prop
  | .null | .bool _ | .str _ => True
  | .number n => P n
  | .arr items => OverItems P items
  | .obj members => (members.map Prod.fst).Nodup ∧ OverMembers P members

def OverItems (P : Number → Prop) : List Json → Prop
  | [] => True
  | item :: rest => Over P item ∧ OverItems P rest

def OverMembers (P : Number → Prop) : Members → Prop
  | [] => True
  | (_, value) :: rest => Over P value ∧ OverMembers P rest
end

variable {P Q : Number → Prop}

theorem overItems_iff {items : List Json} : OverItems P items ↔ ∀ item ∈ items, item.Over P := by
  induction items with
  | nil => simp [OverItems]
  | cons item rest ih => simp [OverItems, ih]

mutual
theorem Over.mono (implies : ∀ n, P n → Q n) : ∀ {value : Json}, value.Over P → value.Over Q
  | .null, _ | .bool _, _ | .str _, _ => trivial
  | .number _, holds => implies _ holds
  | .arr _, holds => OverItems.mono implies holds
  | .obj _, holds => ⟨holds.1, OverMembers.mono implies holds.2⟩

theorem OverItems.mono (implies : ∀ n, P n → Q n) : ∀ {items : List Json}, OverItems P items → OverItems Q items
  | [], _ => trivial
  | _ :: _, holds => ⟨holds.1.mono implies, OverItems.mono implies holds.2⟩

theorem OverMembers.mono (implies : ∀ n, P n → Q n) :
    ∀ {members : Members}, OverMembers P members → OverMembers Q members
  | [], _ => trivial
  | _ :: _, holds => ⟨holds.1.mono implies, OverMembers.mono implies holds.2⟩
end

theorem Over.of_get? {members : Members} (holds : (Json.obj members).Over P) {name : String} {value : Json}
    (found : Members.get? name members = some value) : value.Over P := by
  replace holds := holds.2
  induction members with
  | nil => cases found
  | cons member rest ih =>
    obtain ⟨key, own⟩ := member
    simp only [Members.get?] at found
    split at found
    · cases found
      exact holds.1
    · exact ih found holds.2

/-! ## Members -/

namespace Members

theorem put_of_new {name : String} {value : Json} {members : Members}
    (new : name ∉ members.map Prod.fst) : put name value members = members ++ [(name, value)] := by
  induction members with
  | nil => rfl
  | cons member rest ih =>
    obtain ⟨key, old⟩ := member
    simp only [List.map_cons, List.mem_cons, not_or] at new
    simp only [put, if_neg (Ne.symm new.1), ih new.2, List.cons_append]

/-- Pairs of different names are the members that writing them leaves. -/
theorem ofPairs_of_nodup {pairs : Members} (distinct : (pairs.map Prod.fst).Nodup) : ofPairs pairs = pairs := by
  suffices ∀ before : Members, ((before ++ pairs).map Prod.fst).Nodup →
      pairs.foldl (fun members pair => put pair.1 pair.2 members) before = before ++ pairs from
    this [] distinct
  clear distinct
  induction pairs with
  | nil => simp
  | cons pair rest ih =>
    intro before distinct
    have new : pair.1 ∉ before.map Prod.fst := by
      intro known
      simp only [List.map_append, List.map_cons, List.nodup_append] at distinct
      exact distinct.2.2 _ known _ (List.mem_cons_self ..) rfl
    rw [List.foldl_cons, put_of_new new, ih (before ++ [pair]) (by simpa using distinct)]
    simp

theorem names_put (name : String) (value : Json) (members : Members) :
    (put name value members).map Prod.fst =
      if name ∈ members.map Prod.fst then members.map Prod.fst else members.map Prod.fst ++ [name] := by
  induction members with
  | nil => rfl
  | cons member rest ih =>
    obtain ⟨key, old⟩ := member
    by_cases same : key = name
    · simp [put, same]
    · simp only [put, if_neg same, List.map_cons, ih, List.mem_cons, Ne.symm same, false_or]
      split <;> simp

theorem put_over {name : String} {value : Json} {members : Members} (holds : (Json.obj members).Over P)
    (value_over : value.Over P) : (Json.obj (put name value members)).Over P := by
  refine ⟨?_, ?_⟩
  · rw [names_put]
    split
    · exact holds.1
    · rename_i new
      exact List.nodup_append.mpr ⟨holds.1, by simp, by
        rintro known member _ own rfl
        exact new (List.mem_singleton.mp own ▸ member)⟩
  · replace holds := holds.2
    induction members with
    | nil => exact ⟨value_over, trivial⟩
    | cons member rest ih =>
      obtain ⟨key, old⟩ := member
      simp only [put]
      split
      · exact ⟨value_over, holds.2⟩
      · exact ⟨holds.1, ih holds.2⟩

/-- Writing pairs one after the other leaves each name once. -/
theorem ofPairs_over {pairs : Members} (holds : OverMembers P pairs) : (Json.obj (ofPairs pairs)).Over P := by
  suffices ∀ before : Members, (Json.obj before).Over P →
      (Json.obj (pairs.foldl (fun members pair => put pair.1 pair.2 members) before)).Over P from
    this [] ⟨List.nodup_nil, trivial⟩
  induction pairs with
  | nil => exact fun _ holds => holds
  | cons pair rest ih =>
    intro before sound
    exact ih holds.2 _ (put_over sound holds.1)

end Members

end Json

/-! ## Finite numbers -/

/-- Numbers that every reader of JSON takes. -/
def Number.IsFinite : Number → Prop
  | .whole _ => True
  | .real x => x.isFinite = true

namespace Json

variable {P : Number → Prop}

mutual
/-- A value of finite numbers is left as it is. -/
theorem finite_eq : ∀ {value : Json}, value.Over Number.IsFinite → value.finite = value
  | .null, _ | .bool _, _ | .str _, _ | .number (.whole _), _ => rfl
  | .number (.real _), holds => if_pos holds
  | .arr _, holds => congrArg arr (finiteItems_eq holds)
  | .obj _, holds => congrArg obj (finiteMembers_eq holds.2)

theorem finiteItems_eq : ∀ {items : List Json}, OverItems Number.IsFinite items → finiteItems items = items
  | [], _ => rfl
  | _ :: _, holds => by rw [finiteItems, finite_eq holds.1, finiteItems_eq holds.2]

theorem finiteMembers_eq :
    ∀ {members : Members}, OverMembers Number.IsFinite members → finiteMembers members = members
  | [], _ => rfl
  | (_, _) :: _, holds => by rw [finiteMembers, finite_eq holds.1, finiteMembers_eq holds.2]
end

theorem names_finiteMembers (members : Members) :
    (finiteMembers members).map Prod.fst = members.map Prod.fst := by
  induction members with
  | nil => rfl
  | cons member rest ih => simp [finiteMembers, ih]

mutual
/-- Only finite numbers are left, and they are as they were. -/
theorem finite_over : ∀ {value : Json}, value.Over P → value.finite.Over fun n => P n ∧ n.IsFinite
  | .null, _ | .bool _, _ | .str _, _ => trivial
  | .number (.whole _), holds => ⟨holds, trivial⟩
  | .number (.real x), holds => by
    by_cases finite : x.isFinite = true
    · rw [Json.finite, if_pos finite]
      exact ⟨holds, finite⟩
    · rw [Json.finite, if_neg finite]
      exact trivial
  | .arr _, holds => finiteItems_over holds
  | .obj members, holds => ⟨names_finiteMembers members ▸ holds.1, finiteMembers_over holds.2⟩

theorem finiteItems_over :
    ∀ {items : List Json}, OverItems P items → OverItems (fun n => P n ∧ n.IsFinite) (finiteItems items)
  | [], _ => trivial
  | _ :: _, holds => ⟨finite_over holds.1, finiteItems_over holds.2⟩

theorem finiteMembers_over : ∀ {members : Members}, OverMembers P members →
    OverMembers (fun n => P n ∧ n.IsFinite) (finiteMembers members)
  | [], _ => trivial
  | _ :: _, holds => ⟨finite_over holds.1, finiteMembers_over holds.2⟩
end

/-- Dropping what is not finite a second time changes nothing. -/
theorem finiteMembers_finiteMembers {members : Members} (holds : OverMembers P members) :
    finiteMembers (finiteMembers members) = finiteMembers members :=
  finiteMembers_eq (OverMembers.mono (fun _ => And.right) (finiteMembers_over holds))

end Json

end Curation
