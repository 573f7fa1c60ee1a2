import Curation.Proofs.Evaluation.Soundness
import Mathlib.Logic.Relation

/-! How a fault makes its way up a tree. A node at a place stands for the rule at
that place, so what it ends in is judged by the leaves below it alone. Where all
children run at once, any leaf may be the first to end; if it fails, each node
above it may pass the fault on before it looks at another child. -/
namespace Curation.Evaluation

open Node (Path At Decides)
open Relation (ReflTransGen)

variable {L P ε : Type}

/-! ## Rules and nodes at a place -/

/-- A rule at a path of positions below another. -/
inductive RuleAt (sub : Rule) : Path → Rule → Prop where
  | here : RuleAt sub [] sub
  | child {path : Path} {name : String} {args : Json.Members} {operation : Operation}
      {before after : List Rule} {child : Rule} :
    RuleAt sub path child →
    RuleAt sub (before.length :: path) (.group name args operation (before ++ child :: after))

theorem LeafAt.ruleAt {leaf : Condition} {path : Path} {rule : Rule} (at_ : LeafAt leaf path rule) :
    RuleAt (.condition leaf) path rule := by
  induction at_ with
  | here => exact .here
  | child _ ih => exact .child ih

/-- A leaf below a node is below one of its children. -/
theorem LeafAt.of_group {leaf : Condition} {position : Nat} {path : Path} {name : String}
    {args : Json.Members} {operation : Operation} {rules : List Rule}
    (at_ : LeafAt leaf (position :: path) (.group name args operation rules)) :
    ∃ child, rules[position]? = some child ∧ LeafAt leaf path child := by
  generalize whole : Rule.group name args operation rules = rule at at_
  generalize from_ : position :: path = place at at_
  cases at_ with
  | here => cases whole
  | child inside =>
    obtain ⟨-, -, -, rfl⟩ := Rule.group.inj whole
    obtain ⟨rfl, rfl⟩ := List.cons.inj from_
    exact ⟨_, by simp, inside⟩

theorem RuleAt.trans {sub rule root : Rule} {place path : Path} (outer : RuleAt rule place root)
    (inner : RuleAt sub path rule) : RuleAt sub (place ++ path) root := by
  induction outer with
  | here => exact inner
  | child _ ih => exact .child ih

private theorem split_unique {α : Type} {before before' after after' : List α} {child child' : α}
    (same : before ++ child :: after = before' ++ child' :: after')
    (level : before.length = before'.length) : child = child' :=
  (List.cons.inj (List.append_inj same level).2).1

/-- One rule at most is at a place. -/
theorem RuleAt.unique {sub sub' rule : Rule} {path : Path} (one : RuleAt sub path rule)
    (other : RuleAt sub' path rule) : sub = sub' := by
  induction one with
  | here => cases other; rfl
  | @child path name args operation before after child _ ih =>
    generalize whole : Rule.group name args operation (before ++ child :: after) = rule at other
    generalize from_ : before.length :: path = place at other
    cases other with
    | here => cases from_
    | child inside =>
      obtain ⟨-, -, -, same⟩ := Rule.group.inj whole
      obtain ⟨level, rfl⟩ := List.cons.inj from_
      exact ih (split_unique same level ▸ inside)

namespace Node

/-- A node at a path of positions below another. -/
inductive Has (sub : Node L ε) : Path → Node L ε → Prop where
  | here : Has sub [] sub
  | all {rule : Rule} {path : Path} {before after : List (Node L ε)} {child : Node L ε} :
    Has sub path child → Has sub (before.length :: path) (.all rule (before ++ child :: after))
  | race {rule : Rule} {path : Path} {before after : List (Node L ε)} {child : Node L ε} :
    Has sub path child → Has sub (before.length :: path) (.race rule (before ++ child :: after))
  | inOrder {rule : Rule} {path : Path} {failures : List Decision} {rest : List Rule}
      {child : Node L ε} :
    Has sub path child → Has sub (failures.length :: path) (.inOrder rule failures child rest)

variable {leaf : Condition} {state : L} {sub node : Node L ε} {path place : Path}

theorem Has.at (has : Has (.open_ leaf state) path node) : At leaf state path node := by
  induction has with
  | here => exact .here
  | all _ ih => exact .all ih
  | race _ ih => exact .race ih
  | inOrder _ ih => exact .inOrder ih

theorem At.has (at_ : At leaf state path node) : Has (.open_ leaf state) path node := by
  induction at_ with
  | here => exact .here
  | all _ ih => exact .all ih
  | race _ ih => exact .race ih
  | inOrder _ ih => exact .inOrder ih

/-- What takes the place of a leaf is found there. -/
theorem At.has_put (at_ : At leaf state path node) (new : Node L ε) :
    Has new path (put new path node) := by
  induction at_ with
  | here => exact .here
  | all _ ih => rw [put, putAt_append]; exact .all ih
  | race _ ih => rw [put, putAt_append]; exact .race ih
  | inOrder _ ih => exact .inOrder ih

end Node

open Node (Has)

/-- A node at a place stands for the rule there. -/
theorem StandsFor.at_place {known : String → Bool} {strategy : OrStrategy}
    {outcomes : Path → Condition → Except ε Verdict} {rule : Rule} {node sub : Node L ε}
    {place : Path} (stands : StandsFor known strategy outcomes rule node) (has : Has sub place node) :
    ∃ rule', RuleAt rule' place rule ∧
      StandsFor known strategy (fun path => outcomes (place ++ path)) rule' sub := by
  induction has generalizing outcomes rule with
  | here => exact ⟨rule, .here, stands⟩
  | all _ ih =>
    cases stands with
    | all _ each =>
      obtain ⟨first, child, last, rfl, level, stands⟩ := each.child
      obtain ⟨rule', at_, stands⟩ := ih stands
      refine ⟨rule', level ▸ .child at_, ?_⟩
      simpa [ofChild] using stands
  | race _ ih =>
    cases stands with
    | race _ _ each =>
      obtain ⟨first, child, last, rfl, level, stands⟩ := each.child
      obtain ⟨rule', at_, stands⟩ := ih stands
      refine ⟨rule', level ▸ .child at_, ?_⟩
      simpa [ofChild] using stands
  | inOrder _ ih =>
    cases stands with
    | inOrder _ whole tried _ current =>
      obtain ⟨rule', at_, stands⟩ := ih current
      have level := congrArg List.length tried
      rw [Rule.length_sequentials, List.length_map] at level
      subst whole
      exact ⟨rule', level ▸ .child at_, stands⟩

/-- Every outcome at a place is one that the rule there may come to. -/
theorem Run.right_at {manner : Manner} {permits moves : Nat}
    {outcomes : Path → Condition → Except ε Verdict} {root rule : Rule} {place : Path}
    {evaluation : Evaluation P ε} {outcome : Except (EvaluationFault ε) Decision}
    (run : Run manner permits (.of outcomes) root moves evaluation) (there : RuleAt rule place root)
    (has : Has (.ended outcome) place evaluation.tree) :
    Right manner.known manner.strategy (fun path => outcomes (place ++ path)) rule outcome := by
  obtain ⟨rule', there', stands⟩ := run.standsFor.at_place has
  obtain rfl := there.unique there'
  cases stands with
  | ended right => exact right

/-! ## Where everything begins at once -/

private theorem startAll_append (known : String → Bool) (fresh : L) (strategy : OrStrategy)
    (before after : List Rule) :
    (Node.startAll known fresh strategy (before ++ after) : List (Node L ε)) =
      Node.startAll known fresh strategy before ++ Node.startAll known fresh strategy after := by
  induction before with
  | nil => rfl
  | cons rule before ih => simp only [List.cons_append, Node.startAll, ih]

private theorem length_startAll (known : String → Bool) (fresh : L) (strategy : OrStrategy)
    (rules : List Rule) :
    (Node.startAll known fresh strategy rules : List (Node L ε)).length = rules.length := by
  induction rules with
  | nil => rfl
  | cons rule rest ih => simp only [Node.startAll, List.length_cons, ih]

private theorem start_group (known : String → Bool) (fresh : L) (name : String)
    (args : Json.Members) (operation : Operation) {rules : List Rule} (some_rule : rules ≠ []) :
    (Node.start known fresh .concurrent (.group name args operation rules) : Node L ε) =
      (match operation with | .all => Node.all | .any => Node.race)
        (.group name args operation rules) (Node.startAll known fresh .concurrent rules) := by
  cases rules with
  | nil => exact absurd rfl some_rule
  | cons first rest => cases operation <;> simp only [Node.start, Node.startAll]

/-- Every rule below begins in its place. -/
theorem RuleAt.has_start (known : String → Bool) (fresh : L) {sub rule : Rule} {path : Path}
    (at_ : RuleAt sub path rule) :
    Has (Node.start known fresh .concurrent sub : Node L ε) path
      (Node.start known fresh .concurrent rule) := by
  induction at_ with
  | here => exact .here
  | @child path name args operation before after child _ ih =>
    rw [start_group known fresh name args operation (by simp), startAll_append,
      ← length_startAll (ε := ε) known fresh .concurrent before]
    cases operation with
    | all => exact .all ih
    | any => exact .race ih

/-! ## A fault on its way up -/

section

variable {begin_ : Rule → Node L ε} {fault : EvaluationFault ε}

private theorem fault_mem (fault : EvaluationFault ε) (before after : List (Node L ε)) :
    .ended (.error fault) ∈ before ++ .ended (.error fault) :: after :=
  List.mem_append_right _ (.head _)

/-- Each node above a fault may pass it on. -/
theorem Node.Has.rise {node : Node L ε} {path : Path} (has : Has (.ended (.error fault)) path node) :
    ReflTransGen (Decides begin_) node (.ended (.error fault)) := by
  induction has with
  | here => exact .refl
  | @all rule path before after child _ ih =>
    have inside := ih.lift (fun child => Node.all rule (before ++ child :: after)) fun _ _ => Decides.inAll
    exact inside.tail (.allFault (fault_mem fault before after))
  | @race rule path before after child _ ih =>
    have inside := ih.lift (fun child => Node.race rule (before ++ child :: after)) fun _ _ => Decides.inRace
    exact inside.tail (.raceFault (fault_mem fault before after))
  | @inOrder rule path failures rest child _ ih =>
    have inside := ih.lift (fun child => Node.inOrder rule failures child rest) fun _ _ => Decides.inCurrent
    refine inside.tail ?_
    have decides : Decides begin_ (.inOrder rule failures (.ended (.error fault)) rest) _ := .inOrder
    simpa [Node.settleInOrder] using decides

/-- A fault below a place may rise to that place. -/
theorem Node.Has.rise_to {place path : Path} {node : Node L ε}
    (has : Has (.ended (.error fault)) (place ++ path) node) :
    ∃ node', ReflTransGen (Decides begin_) node node' ∧ Has (.ended (.error fault)) place node' := by
  induction place generalizing node with
  | nil => exact ⟨_, has.rise, .here⟩
  | cons position place ih =>
    generalize whole : position :: place ++ path = target at has
    cases has with
    | here => cases whole
    | @all rule inner before after child inside =>
      obtain ⟨rfl, rfl⟩ := List.cons.inj whole
      obtain ⟨child', steps, found⟩ := ih inside
      exact ⟨_, steps.lift (fun child => Node.all rule (before ++ child :: after)) fun _ _ => Decides.inAll,
        .all found⟩
    | @race rule inner before after child inside =>
      obtain ⟨rfl, rfl⟩ := List.cons.inj whole
      obtain ⟨child', steps, found⟩ := ih inside
      exact ⟨_, steps.lift (fun child => Node.race rule (before ++ child :: after)) fun _ _ => Decides.inRace,
        .race found⟩
    | @inOrder rule inner failures rest child inside =>
      obtain ⟨rfl, rfl⟩ := List.cons.inj whole
      obtain ⟨child', steps, found⟩ := ih inside
      exact ⟨_, steps.lift (fun child => Node.inOrder rule failures child rest) fun _ _ => Decides.inCurrent,
        .inOrder found⟩

end

theorem exists_firstFault? {children : List (Node L ε)} {fault : EvaluationFault ε}
    (member : .ended (.error fault) ∈ children) : ∃ first, Node.firstFault? children = some first := by
  fun_induction Node.firstFault? children with
  | case1 => cases member
  | case2 first rest => exact ⟨first, rfl⟩
  | case3 node rest other ih =>
    rcases List.mem_cons.mp member with rfl | later
    · exact absurd rfl (other fault)
    · exact ih later

/-- A node that asks for any child at once passes on a fault if there is one, whatever
else its children have come to. -/
theorem Node.Decides.fault_first {begin_ : Rule → Node L ε} {rule : Rule} {children : List (Node L ε)}
    {fault : EvaluationFault ε} {outcome : Except (EvaluationFault ε) Decision}
    (decides : Decides begin_ (.race rule children) (.ended outcome))
    (member : .ended (.error fault) ∈ children) :
    ∃ first, .ended (.error first) ∈ children ∧ outcome = .error first := by
  cases decides with
  | race settled =>
    obtain ⟨first, known⟩ := exists_firstFault? member
    simp only [Node.settleRace, known, Node.ended.injEq] at settled
    exact ⟨first, Node.mem_of_firstFault? known, settled.symm⟩
  | raceFault member => exact ⟨_, member, rfl⟩

/-! ## Any leaf may be the first to end -/

variable {manner : Manner} {permits moves : Nat} {may : Says ε} {rule : Rule} {leaf : Condition}
  {path : Path}

theorem Run.decideAll {evaluation : Evaluation P ε} {tree : Node (Slot P) ε}
    (run : Run manner permits may rule moves evaluation)
    (steps : ReflTransGen (Decides manner.start) evaluation.tree tree) :
    ∃ moves, Run manner permits may rule moves { evaluation with tree } := by
  induction steps with
  | refl => exact ⟨moves, run⟩
  | tail _ decides ih =>
    obtain ⟨moves, run⟩ := ih
    exact ⟨moves + 1, run.move (.decide decides)⟩

/-- A leaf that lines up before any other is let in. -/
private theorem next?_first (permitted : 1 ≤ permits)
    (at_ : At leaf .fresh path (begin_ manner rule : Evaluation P ε).tree) :
    ((begin_ manner rule : Evaluation P ε).enroll path leaf).next? permits = some (path, 0, leaf) := by
  generalize known : (begin_ manner rule : Evaluation P ε).enroll path leaf = enrolled
  -- Everything else is as new as it was when the rule began.
  have only : ∀ {leaf' : Condition} {slot : Slot P} {path' : Path},
      At leaf' slot path' enrolled.tree →
        slot = .fresh ∨ (path' = path ∧ leaf' = leaf ∧ slot = .inLine 0) := by
    intro leaf' slot path' found
    subst known
    rcases found.of_put at_ with ⟨inner, rfl, inside⟩ | old
    · cases inside
      exact .inr ⟨by simp, rfl, rfl⟩
    · exact .inl (Node.start_fresh rule path' old)
  have nobody : enrolled.working = [] := by
    refine List.eq_nil_iff_forall_not_mem.mpr fun working member => ?_
    rcases only (mem_working.mp member) with new | ⟨_, _, waiting⟩
    · cases new
    · cases waiting
  have waiting : (path, 0, leaf) ∈ enrolled.line := known ▸ mem_line.mpr at_.put_same
  obtain ⟨⟨path', ticket, leaf'⟩, lowest⟩ := exists_lowest (List.ne_nil_of_mem waiting)
  have free : enrolled.working.length < permits := by rw [nobody]; exact permitted
  rcases only (mem_line.mp (lowest?_mem lowest)) with new | ⟨rfl, rfl, same⟩
  · cases new
  · cases same
    simp only [next?, free, ↓reduceIte, lowest]

/-- A leaf that fails may end before all others do. -/
theorem RuleAt.fails_first [Inhabited P] {known : String → Bool}
    {outcomes : Path → Condition → Except ε Verdict} (permitted : 1 ≤ permits)
    (at_ : RuleAt (.condition leaf) path rule)
    (raises : known leaf.name = false ∨ ∃ fault, outcomes path leaf = .error fault) :
    ∃ moves fault, ∃ evaluation : Evaluation P ε,
      Run ⟨known, .concurrent⟩ permits (.of outcomes) rule moves evaluation ∧
      Has (.ended (.error fault)) path evaluation.tree := by
  have begun := at_.has_start (L := Slot P) (ε := ε) known .fresh
  cases named : known leaf.name with
  | false =>
    simp only [Node.start, named] at begun
    exact ⟨0, _, _, .start, begun⟩
  | true =>
    obtain ⟨fault, said⟩ : ∃ fault, outcomes path leaf = .error fault := by simpa [named] using raises
    simp only [Node.start, named, ↓reduceIte] at begun
    have new : At leaf .fresh path (begin_ ⟨known, .concurrent⟩ rule : Evaluation P ε).tree := begun.at
    have run : Run ⟨known, .concurrent⟩ permits (.of outcomes) rule 0
      (begin_ ⟨known, .concurrent⟩ rule : Evaluation P ε) := .start
    have next := next?_first permitted new
    have atWork := (run.move (.lineUp (mem_newcomers.mpr new))).move (.letIn default next)
    have member : (⟨path, 0, leaf, default⟩ : Working P) ∈
        (((begin_ ⟨known, .concurrent⟩ rule : Evaluation P ε).enroll path leaf).putSlot path leaf
          (.atWork 0 default)).working := mem_working.mpr (next?_some next).1.put_same
    exact ⟨_, _, _, atWork.move (.finish member said.symm), (mem_working.mp member).has_put _⟩

end Curation.Evaluation
