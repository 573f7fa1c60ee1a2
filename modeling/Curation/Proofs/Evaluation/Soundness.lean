import Curation.Proofs.Evaluation.Progress
import Curation.Proofs.Evaluation.Value

/-! Every order of an evaluation keeps to the declaration order. A node under way
stands for a rule: what has ended in it agrees with `Rule.sequential` child by
child, and only failures precede the child that is tried next. Each move keeps
this, wherever in the tree it takes place. -/
namespace Curation.Evaluation

open Node (Path At Decides)
open Rule (sequential sequentials)

variable {L P ε : Type}

/-- A leaf of a rule at a path of positions. -/
inductive LeafAt (leaf : Condition) : Path → Rule → Prop where
  | here : LeafAt leaf [] (.condition leaf)
  | child {path : Path} {name : String} {args : Json.Members} {operation : Operation}
      {before after : List Rule} {child : Rule} :
    LeafAt leaf path child →
    LeafAt leaf (before.length :: path) (.group name args operation (before ++ child :: after))

theorem mem_leavesOf_append (before : List Rule) (child : Rule) (after : List Rule)
    {leaf : Condition} (member : leaf ∈ child.leaves) :
    leaf ∈ Rule.leavesOf (before ++ child :: after) := by
  induction before with
  | nil => exact List.mem_append_left _ member
  | cons rule before ih => exact List.mem_append_right _ ih

theorem LeafAt.mem_leaves {leaf : Condition} {path : Path} {rule : Rule}
    (at_ : LeafAt leaf path rule) : leaf ∈ rule.leaves := by
  induction at_ with
  | here => exact .head _
  | child _ ih => exact mem_leavesOf_append _ _ _ ih

/-- Some leaf of a rule fails, or names no known check. -/
def Raises (known : String → Bool) (outcomes : Path → Condition → Except ε Verdict) (rule : Rule) :
    Prop :=
  ∃ path leaf, LeafAt leaf path rule ∧
    (known leaf.name = false ∨ ∃ fault, outcomes path leaf = .error fault)

/-- An outcome that a rule may come to. A fault has its cause in a leaf; in order,
it comes only where the declaration order has one. -/
def Right (known : String → Bool) (strategy : OrStrategy)
    (outcomes : Path → Condition → Except ε Verdict) (rule : Rule) :
    Except (EvaluationFault ε) Decision → Prop
  | .ok decision => sequential known outcomes rule = some decision
  | .error _ => Raises known outcomes rule ∧
    (strategy = .shortCircuit → sequential known outcomes rule = none)

mutual
/-- A node that stands for a rule under way. -/
inductive StandsFor (known : String → Bool) (strategy : OrStrategy) :
    (Path → Condition → Except ε Verdict) → Rule → Node L ε → Prop where
  | open_ {outcomes : Path → Condition → Except ε Verdict} {leaf : Condition} {state : L} :
    known leaf.name = true → StandsFor known strategy outcomes (.condition leaf) (.open_ leaf state)
  | ended {outcomes : Path → Condition → Except ε Verdict} {rule : Rule}
      {outcome : Except (EvaluationFault ε) Decision} :
    Right known strategy outcomes rule outcome → StandsFor known strategy outcomes rule (.ended outcome)
  | all {outcomes : Path → Condition → Except ε Verdict} {name : String} {args : Json.Members}
      {rules : List Rule} {children : List (Node L ε)} :
    rules ≠ [] → EachStandsFor known strategy outcomes 0 rules children →
    StandsFor known strategy outcomes (.group name args .all rules)
      (.all (.group name args .all rules) children)
  | race {outcomes : Path → Condition → Except ε Verdict} {name : String} {args : Json.Members}
      {rules : List Rule} {children : List (Node L ε)} :
    strategy = .concurrent → rules ≠ [] → EachStandsFor known strategy outcomes 0 rules children →
    StandsFor known strategy outcomes (.group name args .any rules)
      (.race (.group name args .any rules) children)
  | inOrder {outcomes : Path → Condition → Except ε Verdict} {name : String} {args : Json.Members}
      {rules tried rest : List Rule} {rule : Rule} {failures : List Decision} {current : Node L ε} :
    strategy = .shortCircuit → rules = tried ++ rule :: rest →
    sequentials known outcomes 0 tried = failures.map some →
    (∀ failure ∈ failures, failure.passed = false) →
    StandsFor known strategy (ofChild failures.length outcomes) rule current →
    StandsFor known strategy outcomes (.group name args .any rules)
      (.inOrder (.group name args .any rules) failures current rest)

inductive EachStandsFor (known : String → Bool) (strategy : OrStrategy) :
    (Path → Condition → Except ε Verdict) → Nat → List Rule → List (Node L ε) → Prop where
  | nil {outcomes : Path → Condition → Except ε Verdict} {position : Nat} :
    EachStandsFor known strategy outcomes position [] []
  | cons {outcomes : Path → Condition → Except ε Verdict} {position : Nat} {rule : Rule}
      {rules : List Rule} {node : Node L ε} {nodes : List (Node L ε)} :
    StandsFor known strategy (ofChild position outcomes) rule node →
    EachStandsFor known strategy outcomes (position + 1) rules nodes →
    EachStandsFor known strategy outcomes position (rule :: rules) (node :: nodes)
end

variable {known : String → Bool} {strategy : OrStrategy}
  {outcomes : Path → Condition → Except ε Verdict}

/-! ## Children -/

/-- The child at a position stands for the rule there. -/
theorem EachStandsFor.child {position : Nat} {rules : List Rule} {before after : List (Node L ε)}
    {node : Node L ε}
    (each : EachStandsFor known strategy outcomes position rules (before ++ node :: after)) :
    ∃ first rule last, rules = first ++ rule :: last ∧ first.length = before.length ∧
      StandsFor known strategy (ofChild (position + before.length) outcomes) rule node := by
  induction before generalizing position rules with
  | nil =>
    cases each with
    | cons here later => exact ⟨[], _, _, rfl, rfl, here⟩
  | cons _ before ih =>
    cases each with
    | cons here later =>
      obtain ⟨first, rule, last, rfl, level, stands⟩ := ih later
      refine ⟨_ :: first, rule, last, rfl, congrArg (· + 1) level, ?_⟩
      simpa [Nat.add_assoc, Nat.add_comm 1] using stands

/-- One child may take the place of another that stands for the same rule. -/
theorem EachStandsFor.replace {position : Nat} {rules : List Rule}
    {before after : List (Node L ε)} {node node' : Node L ε}
    (each : EachStandsFor known strategy outcomes position rules (before ++ node :: after))
    (same : ∀ rule, StandsFor known strategy (ofChild (position + before.length) outcomes) rule node →
      StandsFor known strategy (ofChild (position + before.length) outcomes) rule node') :
    EachStandsFor known strategy outcomes position rules (before ++ node' :: after) := by
  induction before generalizing position rules with
  | nil =>
    cases each with
    | cons here later => exact .cons (same _ here) later
  | cons _ before ih =>
    cases each with
    | cons here later =>
      refine .cons here (ih later fun rule stands => ?_)
      have shifted : position + 1 + before.length = position + (before.length + 1) := by omega
      rw [shifted] at stands ⊢
      exact same rule stands

/-- Children that were decided one after another have the decisions of their rules. -/
theorem EachStandsFor.decided {position : Nat} {rules : List Rule} {decisions : List Decision}
    {nodes : List (Node L ε)}
    (each : EachStandsFor known strategy outcomes position rules
      (decisions.map (fun decision => .ended (.ok decision)) ++ nodes)) :
    ∃ later, sequentials known outcomes position rules = decisions.map some ++ later ∧
      (nodes = [] → later = []) := by
  induction decisions generalizing position rules with
  | nil =>
    refine ⟨_, rfl, fun none_left => ?_⟩
    subst none_left
    cases each
    rfl
  | cons decision decisions ih =>
    cases each with
    | cons here rest =>
      obtain ⟨later, shape, ends⟩ := ih rest
      cases here with
      | ended right => exact ⟨later, congr (congrArg List.cons right) shape, ends⟩

theorem EachStandsFor.mem_none {position : Nat} {rules : List Rule} {nodes : List (Node L ε)}
    {fault : EvaluationFault ε} (each : EachStandsFor known .shortCircuit outcomes position rules nodes)
    (member : .ended (.error fault) ∈ nodes) :
    none ∈ sequentials known outcomes position rules := by
  induction nodes generalizing position rules with
  | nil => cases member
  | cons node nodes ih =>
    cases each with
    | cons here rest =>
      rcases List.mem_cons.mp member with rfl | later
      · cases here with
        | ended right => exact List.mem_cons.mpr (.inl (right.2 rfl).symm)
      · exact .tail _ (ih rest later)

/-- A fault among the children has its cause in a leaf below the node. -/
theorem EachStandsFor.raises {rules : List Rule} {nodes : List (Node L ε)}
    {fault : EvaluationFault ε} (each : EachStandsFor known strategy outcomes 0 rules nodes)
    (member : .ended (.error fault) ∈ nodes) (name : String) (args : Json.Members)
    (operation : Operation) : Raises known outcomes (.group name args operation rules) := by
  obtain ⟨before, after, rfl⟩ := List.append_of_mem member
  obtain ⟨first, rule, last, rfl, level, stands⟩ := each.child
  cases stands with
  | ended right =>
    obtain ⟨path, leaf, at_, cause⟩ := right.1
    refine ⟨first.length :: path, leaf, .child at_, ?_⟩
    simpa [ofChild, level] using cause

/-! ## A node that decides -/

private theorem sequential_all {rules : List Rule} (some_rule : rules ≠ []) (name : String)
    (args : Json.Members) : sequential known outcomes (.group name args .all rules) =
      ((sequentials known outcomes 0 rules).mapM id).map (.ofAll (.group name args .all rules)) := by
  simp [sequential, some_rule]

theorem sequential_any {rules : List Rule} (some_rule : rules ≠ []) (name : String)
    (args : Json.Members) : sequential known outcomes (.group name args .any rules) =
      Rule.firstPass (.group name args .any rules) [] (sequentials known outcomes 0 rules) := by
  simp [sequential, some_rule]

private theorem all_fault {rules : List Rule} {children : List (Node L ε)} {fault : EvaluationFault ε}
    (some_rule : rules ≠ []) (each : EachStandsFor known strategy outcomes 0 rules children)
    (member : .ended (.error fault) ∈ children) (name : String) (args : Json.Members) :
    Right known strategy outcomes (.group name args .all rules)
      (.error fault : Except (EvaluationFault ε) Decision) := by
  refine ⟨each.raises member name args .all, fun inOrder => ?_⟩
  subst inOrder
  rw [sequential_all some_rule, Rule.mapM_id_none (each.mem_none member)]
  rfl

private theorem all_right {rules : List Rule} {children : List (Node L ε)}
    {outcome : Except (EvaluationFault ε) Decision} {name : String} {args : Json.Members}
    (some_rule : rules ≠ []) (each : EachStandsFor known strategy outcomes 0 rules children)
    (settled : Node.settleAll (.group name args .all rules) children = .ended outcome) :
    Right known strategy outcomes (.group name args .all rules) outcome := by
  unfold Node.settleAll at settled
  cases faults : Node.firstFault? children with
  | some fault =>
    simp only [faults, Node.ended.injEq] at settled
    subst settled
    exact all_fault some_rule each (Node.mem_of_firstFault? faults) name args
  | none =>
    obtain ⟨rest, shape, whole⟩ := Node.decided_prefix children
    rcases known' : Node.decided children with ⟨decisions, all_ended⟩
    simp only [faults, known'] at settled
    rw [known'] at shape whole
    cases all_ended with
    | false => cases settled
    | true =>
      cases settled
      obtain ⟨later, decided, ends⟩ := (shape ▸ each).decided
      rw [ends (whole rfl), List.append_nil] at decided
      show sequential known outcomes _ = _
      rw [sequential_all some_rule, decided, Rule.mapM_id_some]
      rfl

private theorem race_right {rules : List Rule} {children : List (Node L ε)}
    {outcome : Except (EvaluationFault ε) Decision} {name : String} {args : Json.Members}
    (some_rule : rules ≠ []) (each : EachStandsFor known .concurrent outcomes 0 rules children)
    (settled : Node.settleRace (.group name args .any rules) children = .ended outcome) :
    Right known .concurrent outcomes (.group name args .any rules) outcome := by
  unfold Node.settleRace at settled
  cases faults : Node.firstFault? children with
  | some fault =>
    simp only [faults, Node.ended.injEq] at settled
    subst settled
    exact ⟨each.raises (Node.mem_of_firstFault? faults) name args .any, nofun⟩
  | none =>
    obtain ⟨rest, shape, whole⟩ := Node.decided_prefix children
    rcases known' : Node.decided children with ⟨decisions, all_ended⟩
    simp only [faults, known'] at settled
    rw [known'] at shape whole
    obtain ⟨later, decided, ends⟩ := (shape ▸ each).decided
    cases first : decisions.find? (·.passed) with
    | some passing =>
      simp only [first, Node.ended.injEq] at settled
      subst settled
      show sequential known outcomes _ = _
      rw [sequential_any some_rule, decided, Rule.firstPass_found first]
    | none =>
      simp only [first] at settled
      cases all_ended with
      | false => simp at settled
      | true =>
        simp only [↓reduceIte, Node.ended.injEq] at settled
        subst settled
        rw [ends (whole rfl), List.append_nil] at decided
        show sequential known outcomes _ = _
        rw [sequential_any some_rule, decided, Rule.firstPass_none first]

/-! ## Rules that begin -/

variable {manner : Manner}

mutual
/-- A rule stands for itself as it begins. -/
theorem start_standsFor (outcomes : Path → Condition → Except ε Verdict) : (rule : Rule) →
    StandsFor manner.known manner.strategy outcomes rule (manner.start rule : Node (Slot P) ε)
  | .condition leaf => by
    unfold Manner.start Node.start
    cases known : manner.known leaf.name with
    | true => exact .open_ known
    | false =>
      refine .ended ⟨⟨[], leaf, .here, .inl known⟩, fun _ => ?_⟩
      simp [sequential, known]
  | .group name args operation [] => by
    simp only [Manner.start, Node.start]
    exact .ended (by simp [Right, sequential])
  | .group name args .all (first :: rest) => by
    have here : StandsFor manner.known manner.strategy (ofChild 0 outcomes) first
        (manner.start first : Node (Slot P) ε) := start_standsFor (ofChild 0 outcomes) first
    exact .all (by simp) (.cons here (startAll_standsFor outcomes 1 rest))
  | .group name args .any (first :: rest) => by
    have here : StandsFor manner.known manner.strategy (ofChild 0 outcomes) first
        (manner.start first : Node (Slot P) ε) := start_standsFor (ofChild 0 outcomes) first
    simp only [Manner.start, Node.start]
    split
    · rename_i inOrder
      have whole : first :: rest = [] ++ first :: rest := rfl
      exact .inOrder inOrder whole rfl (by simp) here
    · rename_i atOnce
      exact .race atOnce (by simp) (.cons here (startAll_standsFor outcomes 1 rest))

theorem startAll_standsFor (outcomes : Path → Condition → Except ε Verdict) (position : Nat) :
    (rules : List Rule) → EachStandsFor manner.known manner.strategy outcomes position rules
      (Node.startAll manner.known .fresh manner.strategy rules : List (Node (Slot P) ε))
  | [] => .nil
  | rule :: rest =>
    .cons (start_standsFor (ofChild position outcomes) rule) (startAll_standsFor outcomes (position + 1) rest)
end

private theorem length_tried {tried : List Rule} {failures : List Decision}
    (before : sequentials known outcomes 0 tried = failures.map some) :
    tried.length = failures.length := by
  rw [← Rule.length_sequentials 0 tried, before, List.length_map]

/-- Children that were tried come before the current one and those to come. -/
private theorem sequentials_tried {tried rest : List Rule} {rule : Rule} {failures : List Decision}
    (before : sequentials known outcomes 0 tried = failures.map some) :
    sequentials known outcomes 0 (tried ++ rule :: rest) = failures.map some ++
      sequential known (ofChild failures.length outcomes) rule ::
        sequentials known outcomes (failures.length + 1) rest := by
  rw [Rule.sequentials_append, before, Nat.zero_add, length_tried before]
  rfl

/-- A node that tries its children in order goes on to the next only after a
failure, so what it has tried is what the declaration order tries first. -/
theorem settleInOrder_standsFor {rules tried rest : List Rule} {rule : Rule}
    {failures : List Decision} {current : Node (Slot P) ε} {name : String} {args : Json.Members}
    (inOrder : manner.strategy = .shortCircuit) (whole : rules = tried ++ rule :: rest)
    (before : sequentials manner.known outcomes 0 tried = failures.map some)
    (failed : ∀ failure ∈ failures, failure.passed = false)
    (stands : StandsFor manner.known manner.strategy (ofChild failures.length outcomes) rule current) :
    StandsFor manner.known manner.strategy outcomes (.group name args .any rules)
      (Node.settleInOrder manner.start (.group name args .any rules) failures current rest) := by
  have some_rule : rules ≠ [] := by simp [whole]
  fun_induction Node.settleInOrder manner.start (.group name args .any rules) failures current rest
    generalizing tried rule with
  | case1 failures rest fault =>
    cases stands with
    | ended right =>
      obtain ⟨path, leaf, at_, cause⟩ := right.1
      refine .ended ⟨⟨failures.length :: path, leaf, ?_, cause⟩, fun _ => ?_⟩
      · rw [whole, ← length_tried before]
        exact .child at_
      · rw [sequential_any some_rule, whole, sequentials_tried before, right.2 inOrder,
          Rule.firstPass_failed failed]
        rfl
  | case2 failures rest decision passes =>
    cases stands with
    | ended right =>
      refine .ended ?_
      show sequential manner.known outcomes _ = _
      rw [sequential_any some_rule, whole, sequentials_tried before, Rule.firstPass_failed failed,
        show sequential _ _ rule = _ from right, Rule.firstPass, if_pos passes]
  | case3 failures decision fails =>
    cases stands with
    | ended right =>
      refine .ended ?_
      show sequential manner.known outcomes _ = _
      rw [sequential_any some_rule, whole, sequentials_tried before, Rule.firstPass_failed failed,
        show sequential _ _ rule = _ from right, Rule.firstPass, if_neg fails]
      rfl
  | case4 failures decision fails more next rest =>
    rename_i ih
    cases stands with
    | ended right =>
      have tried_too : sequentials manner.known outcomes 0 (tried ++ [rule]) =
          (failures ++ [decision]).map some := by
        rw [sequentials_tried before, show sequential _ _ rule = _ from right, List.map_append]
        rfl
      have failed_too : ∀ failure ∈ failures ++ [decision], failure.passed = false := by
        intro failure member
        rcases List.mem_append.mp member with member | member
        · exact failed failure member
        · exact List.mem_singleton.mp member ▸ Bool.eq_false_iff.mpr fails
      have whole_too : rules = (tried ++ [rule]) ++ next :: rest := by simp [whole]
      exact ih whole_too tried_too failed_too (start_standsFor _ next)
  | case5 failures rest current faultless undecided =>
    exact .inOrder inOrder whole before failed stands

/-! ## Every move -/

/-- A node that decides still stands for its rule. -/
theorem Decides.standsFor {node node' : Node (Slot P) ε} {rule : Rule}
    (decides : Decides manner.start node node')
    (stands : StandsFor manner.known manner.strategy outcomes rule node) :
    StandsFor manner.known manner.strategy outcomes rule node' := by
  induction decides generalizing outcomes rule with
  | all settled =>
    cases stands with
    | all some_rule each => exact .ended (all_right some_rule each settled)
  | race settled =>
    cases stands with
    | race atOnce some_rule each =>
      rw [atOnce] at each ⊢
      exact .ended (race_right some_rule each settled)
  | allFault member =>
    cases stands with
    | all some_rule each => exact .ended (all_fault some_rule each member _ _)
  | raceFault member =>
    cases stands with
    | race atOnce some_rule each =>
      refine .ended ⟨each.raises member _ _ _, fun inOrder => ?_⟩
      rw [atOnce] at inOrder
      cases inOrder
  | inOrder =>
    cases stands with
    | inOrder inOrder whole before failed current =>
      exact settleInOrder_standsFor inOrder whole before failed current
  | inAll _ ih =>
    cases stands with
    | all some_rule each => exact .all some_rule (each.replace fun _ => ih)
  | inRace _ ih =>
    cases stands with
    | race atOnce some_rule each => exact .race atOnce some_rule (each.replace fun _ => ih)
  | inCurrent _ ih =>
    cases stands with
    | inOrder inOrder whole before failed current =>
      exact .inOrder inOrder whole before failed (ih current)

/-- A leaf may give way to what stands for it. -/
theorem At.standsFor_put {node new : Node L ε} {leaf : Condition} {state : L} {path : Path}
    {rule : Rule} (at_ : At leaf state path node)
    (stands : StandsFor known strategy outcomes rule node)
    (same : known leaf.name = true →
      StandsFor known strategy (fun below => outcomes (path ++ below)) (.condition leaf) new) :
    StandsFor known strategy outcomes rule (Node.put new path node) := by
  induction at_ generalizing outcomes rule with
  | here =>
    cases stands with
    | open_ known => exact same known
  | @all _ path before after child inside ih =>
    cases stands with
    | all some_rule each =>
      rw [Node.put, Node.putAt_append]
      refine .all some_rule (each.replace fun rule child => ih child ?_)
      simpa [ofChild] using same
  | @race _ path before after child inside ih =>
    cases stands with
    | race atOnce some_rule each =>
      rw [Node.put, Node.putAt_append]
      refine .race atOnce some_rule (each.replace fun rule child => ih child ?_)
      simpa [ofChild] using same
  | inOrder inside ih =>
    cases stands with
    | inOrder inOrder whole before failed current =>
      exact .inOrder inOrder whole before failed (ih current same)

variable {permits moves : Nat} {evaluation next : Evaluation P ε} {rule : Rule}

theorem Move.standsFor (move : Move manner permits (.of outcomes) evaluation next)
    (stands : StandsFor manner.known manner.strategy outcomes rule evaluation.tree) :
    StandsFor manner.known manner.strategy outcomes rule next.tree := by
  cases move with
  | lineUp new => exact At.standsFor_put (mem_newcomers.mp new) stands fun known => .open_ known
  | letIn call first => exact At.standsFor_put (next?_some first).1 stands fun known => .open_ known
  | @finish working outcome member said =>
    refine At.standsFor_put (mem_working.mp member) stands fun known => .ended ?_
    have said : outcome = outcomes working.path working.leaf := said
    cases outcome with
    | ok verdict => simp [Right, conclusion, sequential, known, ← said, Except.toOption]
    | error fault =>
      refine ⟨⟨[], working.leaf, .here, .inr ⟨fault, by simp [← said]⟩⟩, fun _ => ?_⟩
      simp [sequential, ← said, Except.toOption]
  | decide decides => exact Decides.standsFor decides stands

/-- Whatever the order so far, the tree stands for its rule. -/
theorem Run.standsFor (run : Run manner permits (.of outcomes) rule moves evaluation) :
    StandsFor manner.known manner.strategy outcomes rule evaluation.tree := by
  induction run with
  | start => exact start_standsFor outcomes rule
  | move _ move ih => exact move.standsFor ih
  | goOn _ goes ih =>
    cases goes with
    | at_work call member => exact At.standsFor_put (mem_working.mp member) ih fun known => .open_ known

/-- Every outcome is one that the rule may come to. -/
theorem Run.right {outcome : Except (EvaluationFault ε) Decision}
    (run : Run manner permits (.of outcomes) rule moves evaluation)
    (ended : evaluation.tree.outcome? = some outcome) :
    Right manner.known manner.strategy outcomes rule outcome := by
  have stands := run.standsFor
  generalize evaluation.tree = tree at ended stands
  cases stands with
  | ended right => cases ended; exact right
  | open_ | all | race | inOrder => cases ended

/-! ## Checks that do not fail -/

/-- Leaves that are known and do not fail raise nothing. -/
theorem not_raises {verdicts : Path → Condition → Verdict}
    (all_known : ∀ leaf ∈ rule.leaves, known leaf.name = true) :
    ¬ Raises known (fun path leaf => (.ok (verdicts path leaf) : Except ε Verdict)) rule := by
  rintro ⟨path, leaf, at_, unknown | ⟨fault, raised⟩⟩
  · have known := all_known leaf at_.mem_leaves
    rw [unknown] at known
    cases known
  · cases raised

/-- Where no check fails, every outcome is the value of the rule. -/
theorem run_value {verdicts : Path → Condition → Verdict}
    (all_known : ∀ leaf ∈ rule.leaves, manner.known leaf.name = true)
    {outcome : Except (EvaluationFault ε) Decision}
    (run : Run manner permits (.verdicts ε verdicts) rule moves evaluation)
    (ended : evaluation.tree.outcome? = some outcome) : outcome = .ok (rule.value verdicts) := by
  have right := Run.right run ended
  cases outcome with
  | ok decision =>
    simp only [Right, Rule.sequential_eq_value verdicts rule all_known] at right
    cases right
    rfl
  | error fault => exact absurd right.1 (not_raises all_known)

end Curation.Evaluation
