import Scriptlet.Proofs.Tree.Schema

/-!
# Occurrences in trees

Where a node stands in a tree: the nodes above it, from the root down to its parent. What holds of
every node that occurs in a tree holds everywhere in it.
-/

namespace Scriptlet.Node

theorem sizeOf_lt_of_mem_children
    {tree child : Node}
    (member : child ∈ tree.children) :
    sizeOf child < sizeOf tree := by
  cases tree with
  | stray content => cases member
  | branch label children payload =>
      have smaller : sizeOf child < sizeOf children := List.sizeOf_lt_of_mem member
      rw [branch.sizeOf_spec]
      omega

theorem exists_branch_of_kind?
    {node : Node} {kind : Kind}
    (isKind : node.kind? = some kind) :
    ∃ children payload, node = .branch (.kind kind) children payload := by
  unfold kind? at isKind
  split at isKind
  · cases isKind
    exact ⟨_, _, rfl⟩
  · cases isKind

/-- Induction on a tree through its children. -/
@[elab_as_elim]
theorem inductionOn
    {motive : Node → Prop} (tree : Node)
    (step : ∀ tree : Node, (∀ child ∈ tree.children, motive child) → motive tree) :
    motive tree :=
  step tree fun child _ => inductionOn child step
termination_by sizeOf tree
decreasing_by exact sizeOf_lt_of_mem_children ‹_›

/-- The part occurs in the tree below the given nodes, the root first. -/
inductive Occurs (part : Node) : (above : List Node) → (tree : Node) → Prop
  | root : Occurs part [] part
  | under {above : List Node} {tree child : Node} :
      child ∈ tree.children → Occurs part above child → Occurs part (tree :: above) tree

/-- The part stands somewhere in the tree, the root included. -/
def Contains (tree part : Node) : Prop :=
  ∃ above, Occurs part above tree

theorem everywhere_of_contains
    {holds : Node → Prop} {tree : Node}
    (has : ∀ part, tree.Contains part → holds part) :
    tree.Everywhere holds := by
  induction tree using inductionOn with
  | step tree inductionHypothesis =>
      refine .intro (has tree ⟨[], .root⟩) fun child member => ?_
      refine inductionHypothesis child member fun part contained => ?_
      obtain ⟨above, occurs⟩ := contained
      exact has part ⟨tree :: above, .under member occurs⟩

theorem Everywhere.children
    {holds : Node → Prop} {tree : Node}
    (everywhere : tree.Everywhere holds) :
    ∀ child ∈ tree.children, child.Everywhere holds := by
  cases everywhere with
  | intro _ below => exact below

theorem Everywhere.of_contains
    {holds : Node → Prop} {tree part : Node}
    (everywhere : tree.Everywhere holds)
    (contained : tree.Contains part) :
    holds part := by
  obtain ⟨above, occurs⟩ := contained
  induction occurs with
  | root =>
      cases everywhere with
      | intro here _ => exact here
  | under member _ inductionHypothesis =>
      exact inductionHypothesis (everywhere.children _ member)

end Scriptlet.Node
