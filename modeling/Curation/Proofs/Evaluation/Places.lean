import Curation.Evaluation.Turns

/-! Where the open leaves of an evaluation are. A leaf is found along a path of
positions, and replacing it there rewrites one child at each node above it and
nothing else. The executable traversals are tied to this relation once, so that
later arguments follow a single path instead of a whole tree. -/
namespace Curation.Evaluation

variable {L ε : Type}

namespace Node

/-- An open leaf at a path. The child of a node that tries its children in order
stands at the position that the children before it have left free. -/
inductive At (leaf : Condition) (state : L) : Path → Node L ε → Prop where
  | here : At leaf state [] (.open_ leaf state)
  | all {rule : Rule} {path : Path} {before after : List (Node L ε)} {child : Node L ε} :
    At leaf state path child →
    At leaf state (before.length :: path) (.all rule (before ++ child :: after))
  | race {rule : Rule} {path : Path} {before after : List (Node L ε)} {child : Node L ε} :
    At leaf state path child →
    At leaf state (before.length :: path) (.race rule (before ++ child :: after))
  | inOrder {rule : Rule} {path : Path} {failures : List Decision} {rest : List Rule}
      {child : Node L ε} :
    At leaf state path child →
    At leaf state (failures.length :: path) (.inOrder rule failures child rest)

variable {leaf leaf' : Condition} {state state' : L} {node new : Node L ε} {path path' : Path}

theorem leavesOf_append (position : Nat) (before after : List (Node L ε)) :
    leavesOf position (before ++ after) =
      leavesOf position before ++ leavesOf (position + before.length) after := by
  induction before generalizing position with
  | nil => simp [leavesOf]
  | cons node before ih => simp [leavesOf, ih, Nat.add_assoc, Nat.add_comm 1]

theorem putAt_append (new : Node L ε) (path : Path) (before : List (Node L ε)) (child : Node L ε)
    (after : List (Node L ε)) :
    putAt new path before.length (before ++ child :: after) =
      before ++ put new path child :: after := by
  induction before with
  | nil => simp [putAt]
  | cons node before ih => simp [putAt, ih]

/-- What stands at a position of some children splits them there. -/
private theorem mem_leavesOf {children : List (Node L ε)} {position depth : Nat}
    (member : (path, depth, leaf, state) ∈ leavesOf position children) :
    ∃ before child after inner depth', children = before ++ child :: after ∧
      path = (position + before.length) :: inner ∧ (inner, depth', leaf, state) ∈ leaves child := by
  induction children generalizing position with
  | nil => simp [leavesOf] at member
  | cons node rest ih =>
    simp only [leavesOf, List.mem_append, List.mem_map, Prod.mk.injEq] at member
    rcases member with ⟨⟨inner, depth', found⟩, inside, rfl, _, rfl⟩ | later
    · exact ⟨[], node, rest, inner, depth', rfl, by simp, inside⟩
    · obtain ⟨before, child, after, inner, depth', rfl, rfl, inside⟩ := ih later
      refine ⟨node :: before, child, after, inner, depth', rfl, ?_, inside⟩
      simp [Nat.add_assoc, Nat.add_comm 1]

theorem At.mem_leaves (at_ : At leaf state path node) :
    ∃ depth, (path, depth, leaf, state) ∈ node.leaves := by
  induction at_ with
  | here => exact ⟨0, by simp [leaves]⟩
  | all _ ih | race _ ih =>
    obtain ⟨depth, inside⟩ := ih
    refine ⟨depth + 1, ?_⟩
    simp only [leaves, leavesOf_append, leavesOf, List.mem_append, List.mem_map]
    exact .inr (.inl ⟨_, inside, by simp⟩)
  | inOrder _ ih =>
    obtain ⟨depth, inside⟩ := ih
    exact ⟨depth, List.mem_map.mpr ⟨_, inside, rfl⟩⟩

/-- The listed leaves are those that stand at some path. -/
theorem at_of_mem_leaves : (node : Node L ε) → ∀ {path : Path} {depth : Nat},
    (path, depth, leaf, state) ∈ node.leaves → At leaf state path node
  | .open_ _ _, path, depth, member => by
    simp only [leaves, List.mem_singleton, Prod.mk.injEq] at member
    obtain ⟨rfl, _, rfl, rfl⟩ := member
    exact .here
  | .all _ children, path, depth, member => by
    obtain ⟨before, child, after, inner, depth', rfl, rfl, inside⟩ := mem_leavesOf member
    simpa using At.all (at_of_mem_leaves child inside)
  | .race _ children, path, depth, member => by
    obtain ⟨before, child, after, inner, depth', rfl, rfl, inside⟩ := mem_leavesOf member
    simpa using At.race (at_of_mem_leaves child inside)
  | .inOrder _ _ current _, path, depth, member => by
    obtain ⟨⟨inner, depth', found⟩, inside, same⟩ := List.mem_map.mp member
    cases same
    exact .inOrder (at_of_mem_leaves current inside)
  | .ended _, path, depth, member => by simp [leaves] at member

theorem At.of_all {rule : Rule} {children : List (Node L ε)}
    (at_ : At leaf state path (.all rule children)) :
    ∃ child ∈ children, ∃ inner, At leaf state inner child := by
  cases at_ with
  | all inside => exact ⟨_, by simp, _, inside⟩

theorem At.of_race {rule : Rule} {children : List (Node L ε)}
    (at_ : At leaf state path (.race rule children)) :
    ∃ child ∈ children, ∃ inner, At leaf state inner child := by
  cases at_ with
  | race inside => exact ⟨_, by simp, _, inside⟩

/-! ## What a path determines -/

private theorem nodup_map_cons {paths : List Path} (distinct : paths.Nodup) (position : Nat) :
    (paths.map (position :: ·)).Nodup :=
  List.Pairwise.map _ (fun _ _ apart same => apart (List.cons.inj same).2) distinct

private theorem nodup_leavesOf (children : List (Node L ε))
    (each : ∀ child ∈ children, (child.leaves.map (·.1)).Nodup) (position : Nat) :
    ((leavesOf position children).map (·.1)).Nodup := by
  induction children generalizing position with
  | nil => simp [leavesOf]
  | cons child rest ih =>
    simp only [leavesOf, List.map_append, List.map_map]
    refine List.nodup_append.mpr ⟨?_, ih (fun node member => each node (.tail _ member)) _, ?_⟩
    · simpa [Function.comp_def] using nodup_map_cons (each child (.head _)) position
    · intro path here path' later same
      obtain ⟨⟨_, _, _⟩, _, rfl⟩ := List.mem_map.mp here
      obtain ⟨⟨path', depth, leaf, state⟩, inside, rfl⟩ := List.mem_map.mp later
      obtain ⟨before, _, _, inner, _, _, rfl, _⟩ := mem_leavesOf inside
      simp only [Function.comp_apply, List.cons.injEq] at same
      omega

theorem nodup_leaves : (node : Node L ε) → (node.leaves.map (·.1)).Nodup
  | .open_ _ _ => by simp [leaves]
  | .all _ children => nodup_leavesOf children (fun child _ => nodup_leaves child) 0
  | .race _ children => nodup_leavesOf children (fun child _ => nodup_leaves child) 0
  | .inOrder _ failures current _ => by
    simpa [leaves, Function.comp_def] using nodup_map_cons (nodup_leaves current) failures.length
  | .ended _ => by simp [leaves]

/-! ## Replacing a leaf -/

/-- A replaced leaf can be found where the old one was. -/
theorem At.put_same (at_ : At leaf state path node) :
    At leaf' state' path (put (.open_ leaf' state') path node) := by
  induction at_ with
  | here => exact .here
  | all _ ih => rw [put, putAt_append]; exact .all ih
  | race _ ih => rw [put, putAt_append]; exact .race ih
  | inOrder _ ih => exact .inOrder ih

/-- Only the last replacement of a leaf counts. -/
theorem At.put_put (at_ : At leaf state path node) (new : Node L ε) :
    put new path (put (.open_ leaf' state') path node) = put new path node := by
  induction at_ with
  | here => rfl
  | all _ ih | race _ ih => simp only [put, putAt_append, ih]
  | inOrder _ ih => simp only [put, ih]

/-- Where one child is replaced, every other is where it was. -/
private theorem split_replaced {α : Type} {before before' after after' : List α} {child child' : α}
    (same : before ++ child :: after = before' ++ child' :: after') (new : α) :
    (before = before' ∧ child = child' ∧ after = after') ∨
      ∃ first last, before ++ new :: after = first ++ child' :: last ∧
        first.length = before'.length := by
  induction before generalizing before' with
  | nil =>
    cases before' with
    | nil => exact .inl ⟨rfl, List.cons.inj same⟩
    | cons other before' =>
      obtain ⟨-, rfl⟩ := List.cons.inj same
      exact .inr ⟨new :: before', after', rfl, rfl⟩
  | cons head before ih =>
    cases before' with
    | nil =>
      obtain ⟨rfl, -⟩ := List.cons.inj same
      exact .inr ⟨[], before ++ new :: after, rfl, rfl⟩
    | cons other before' =>
      obtain ⟨rfl, tails⟩ := List.cons.inj same
      rcases ih tails with ⟨rfl, rfl, rfl⟩ | ⟨first, last, shape, level⟩
      · exact .inl ⟨rfl, rfl, rfl⟩
      · exact .inr ⟨head :: first, last, congrArg (head :: ·) shape, congrArg (· + 1) level⟩

/-- Leaves elsewhere stay as they are. -/
theorem At.put_other (at_ : At leaf state path node) (other : At leaf' state' path' node)
    (apart : path ≠ path') : At leaf state path (put new path' node) := by
  induction other generalizing path with
  | here => cases at_; exact absurd rfl apart
  | @all rule path' before' after' child' _ ih =>
    rw [put, putAt_append]
    generalize whole : before' ++ child' :: after' = children at at_
    cases at_ with
    | @all _ path before after child inside =>
      rcases split_replaced whole (put new path' child') with
        ⟨rfl, rfl, rfl⟩ | ⟨first, last, shape, level⟩
      · exact .all (ih inside fun same => apart (by rw [same]))
      · rw [shape, ← level]
        exact .all inside
  | @race rule path' before' after' child' _ ih =>
    rw [put, putAt_append]
    generalize whole : before' ++ child' :: after' = children at at_
    cases at_ with
    | @race _ path before after child inside =>
      rcases split_replaced whole (put new path' child') with
        ⟨rfl, rfl, rfl⟩ | ⟨first, last, shape, level⟩
      · exact .race (ih inside fun same => apart (by rw [same]))
      · rw [shape, ← level]
        exact .race inside
  | inOrder _ ih =>
    cases at_ with
    | inOrder inside => exact .inOrder (ih inside fun same => apart (by rw [same]))

/-- A leaf among replaced children is in the new child or was there before. -/
theorem At.all_replaced {rule : Rule} {before after : List (Node L ε)} {child' : Node L ε}
    (at_ : At leaf state path (.all rule (before ++ child' :: after))) (child : Node L ε) :
    (∃ inner, path = before.length :: inner ∧ At leaf state inner child') ∨
      At leaf state path (.all rule (before ++ child :: after)) := by
  generalize whole : before ++ child' :: after = children at at_
  cases at_ with
  | all inside =>
    rcases split_replaced whole child with ⟨rfl, rfl, rfl⟩ | ⟨first, last, shape, level⟩
    · exact .inl ⟨_, rfl, inside⟩
    · rw [shape, ← level]
      exact .inr (.all inside)

theorem At.race_replaced {rule : Rule} {before after : List (Node L ε)} {child' : Node L ε}
    (at_ : At leaf state path (.race rule (before ++ child' :: after))) (child : Node L ε) :
    (∃ inner, path = before.length :: inner ∧ At leaf state inner child') ∨
      At leaf state path (.race rule (before ++ child :: after)) := by
  generalize whole : before ++ child' :: after = children at at_
  cases at_ with
  | race inside =>
    rcases split_replaced whole child with ⟨rfl, rfl, rfl⟩ | ⟨first, last, shape, level⟩
    · exact .inl ⟨_, rfl, inside⟩
    · rw [shape, ← level]
      exact .inr (.race inside)

/-- A leaf of a tree with a replaced leaf is in the replacement or was there before. -/
theorem At.of_put (at_ : At leaf state path (put new path' node))
    (old : At leaf' state' path' node) :
    (∃ inner, path = path' ++ inner ∧ At leaf state inner new) ∨ At leaf state path node := by
  induction old generalizing path with
  | here => exact .inl ⟨path, rfl, at_⟩
  | @all rule path' before after child _ ih =>
    rw [put, putAt_append] at at_
    rcases at_.all_replaced child with ⟨inner, rfl, inside⟩ | unchanged
    · rcases ih inside with ⟨inner, rfl, found⟩ | found
      · exact .inl ⟨inner, rfl, found⟩
      · exact .inr (.all found)
    · exact .inr unchanged
  | @race rule path' before after child _ ih =>
    rw [put, putAt_append] at at_
    rcases at_.race_replaced child with ⟨inner, rfl, inside⟩ | unchanged
    · rcases ih inside with ⟨inner, rfl, found⟩ | found
      · exact .inl ⟨inner, rfl, found⟩
      · exact .inr (.race found)
    · exact .inr unchanged
  | inOrder _ ih =>
    cases at_ with
    | inOrder inside =>
      rcases ih inside with ⟨inner, rfl, found⟩ | found
      · exact .inl ⟨inner, rfl, found⟩
      · exact .inr (.inOrder found)

end Node

/-! ## The lists of an evaluation -/

variable {P : Type} {evaluation : Evaluation P ε} {path : Node.Path} {leaf : Condition} {ticket : Nat}

theorem mem_leaves_iff {slot : Slot P} {node : Node (Slot P) ε} :
    (∃ depth, (path, depth, leaf, slot) ∈ node.leaves) ↔ Node.At leaf slot path node :=
  ⟨fun ⟨_, member⟩ => Node.at_of_mem_leaves node member, Node.At.mem_leaves⟩

/-- The newcomers are the leaves that are new, in whatever order they are named. -/
theorem mem_newcomers :
    (path, leaf) ∈ evaluation.newcomers ↔ Node.At leaf .fresh path evaluation.tree := by
  simp only [newcomers, List.mem_map, List.mem_mergeSort, List.mem_filterMap, Prod.exists,
    Prod.mk.injEq]
  rw [← mem_leaves_iff]
  constructor
  · rintro ⟨depth, path', leaf', ⟨path'', depth', leaf'', slot, member, known⟩, rfl, rfl⟩
    cases slot with
    | fresh => cases known; exact ⟨_, member⟩
    | inLine | atWork => cases known
  · rintro ⟨depth, member⟩
    exact ⟨depth, path, leaf, ⟨path, depth, leaf, .fresh, member, rfl⟩, rfl, rfl⟩

theorem mem_working {working : Working P} : working ∈ evaluation.working ↔
    Node.At working.leaf (.atWork working.ticket working.call) working.path evaluation.tree := by
  simp only [Evaluation.working, List.mem_filterMap, Prod.exists]
  rw [← mem_leaves_iff]
  constructor
  · rintro ⟨path, depth, leaf, slot, member, known⟩
    cases slot with
    | atWork ticket call => cases known; exact ⟨_, member⟩
    | fresh | inLine => cases known
  · rintro ⟨depth, member⟩
    exact ⟨_, depth, _, _, member, rfl⟩

theorem mem_line : (path, ticket, leaf) ∈ evaluation.line ↔
    Node.At leaf (.inLine ticket) path evaluation.tree := by
  simp only [line, List.mem_filterMap, Prod.exists]
  rw [← mem_leaves_iff]
  constructor
  · rintro ⟨path', depth, leaf', slot, member, known⟩
    cases slot with
    | inLine ticket' => cases known; exact ⟨_, member⟩
    | fresh | atWork => cases known
  · rintro ⟨depth, member⟩
    exact ⟨path, depth, leaf, _, member, rfl⟩

theorem lowest?_mem {entries : List (Node.Path × Nat × Condition)}
    {entry : Node.Path × Nat × Condition} (lowest : lowest? entries = some entry) :
    entry ∈ entries := by
  induction entries generalizing entry with
  | nil => cases lowest
  | cons first rest ih =>
    simp only [lowest?] at lowest
    split at lowest
    · cases lowest; exact .head _
    · rename_i other known
      split at lowest
      · cases lowest; exact .tail _ (ih known)
      · cases lowest; exact .head _

theorem exists_lowest {entries : List (Node.Path × Nat × Condition)} (some_ : entries ≠ []) :
    ∃ entry, lowest? entries = some entry := by
  cases entries with
  | nil => exact absurd rfl some_
  | cons first rest =>
    simp only [lowest?]
    split
    · exact ⟨_, rfl⟩
    · split
      · exact ⟨_, rfl⟩
      · exact ⟨_, rfl⟩

/-- Who is let in next stands in line, and there is a permit left. -/
theorem next?_some {permits : Nat} (next : evaluation.next? permits = some (path, ticket, leaf)) :
    Node.At leaf (.inLine ticket) path evaluation.tree ∧ evaluation.working.length < permits := by
  unfold next? at next
  split at next
  · rename_i free
    exact ⟨mem_line.mp (lowest?_mem next), free⟩
  · cases next

end Curation.Evaluation
