import Scriptlet.Proofs.Evaluation.Congruence
import Scriptlet.Proofs.Tree.Kinds
import Scriptlet.Proofs.Tree.Occurrence

/-!
# Shielded trees

Pass-through nodes are the only ones that look at the context, and print nodes evaluate their
children without it. In a tree whose pass-through nodes all stand below print nodes the context
reaches nothing: evaluation in two contexts writes the same and ends the same.
-/

namespace Scriptlet.Node

/-- A node that writes the values of its children. -/
def Prints (node : Node) : Prop :=
  node.kind? = some .print ∨ node.kind? = some .println

/-- Every pass-through node of the tree has a node that prints above it. -/
def Shielded (tree : Node) : Prop :=
  ∀ part above kind,
    Occurs part above tree → part.kind? = some kind → kind ∈ Kind.passThroughKinds →
      ∃ ancestor ∈ above, ancestor.Prints

/-- A shielded tree is no pass-through node, and it prints or its children are shielded. -/
theorem shielded_iff {tree : Node} :
    tree.Shielded ↔
      (∀ kind, tree.kind? = some kind → kind.role ≠ .passThrough) ∧
        (tree.Prints ∨ ∀ child ∈ tree.children, child.Shielded) := by
  constructor
  · intro shielded
    refine ⟨fun kind isKind passes => ?_, ?_⟩
    · obtain ⟨ancestor, member, _⟩ :=
        shielded tree [] kind .root isKind (Kind.mem_passThroughKinds.2 passes)
      cases member
    · by_cases prints : tree.Prints
      · exact .inl prints
      · refine .inr fun child member part above kind occurs isKind passes => ?_
        obtain ⟨ancestor, ancestorMember, ancestorPrints⟩ :=
          shielded part (tree :: above) kind (.under member occurs) isKind passes
        rcases List.mem_cons.1 ancestorMember with rfl | deeper
        · exact absurd ancestorPrints prints
        · exact ⟨ancestor, deeper, ancestorPrints⟩
  · rintro ⟨here, shielding⟩ part above kind occurs isKind passes
    cases occurs with
    | root => exact absurd (Kind.mem_passThroughKinds.1 passes) (here kind isKind)
    | under member occurs =>
        rcases shielding with prints | childrenShielded
        · exact ⟨tree, List.mem_cons_self, prints⟩
        · obtain ⟨ancestor, deeper, prints⟩ :=
            childrenShielded _ member part _ kind occurs isKind passes
          exact ⟨ancestor, List.mem_cons_of_mem _ deeper, prints⟩

theorem shielded_branch
    {kind : Kind} {children : List Node} {payload : Option Payload}
    (notPassing : kind.role ≠ .passThrough)
    (shielding : kind ∈ [.print, .println] ∨ ∀ child ∈ children, child.Shielded) :
    Shielded (.branch (.kind kind) children payload) := by
  refine shielded_iff.2 ⟨?_, shielding.imp_left fun isPrinting => ?_⟩
  · rintro _ ⟨⟩
    exact notPassing
  · simpa [Prints, kind?] using isPrinting

/-- A node that prints does not look at its context. -/
theorem evaluate_eq_of_write
    {kind : Kind} {lineBreak : Bool} (children : List Node) (payload : Option Payload)
    (writes : kind.role = .write lineBreak) (context other : Context) :
    evaluate context (.branch (.kind kind) children payload) =
      evaluate other (.branch (.kind kind) children payload) := by
  unfold evaluate
  rw [writes]

/-- A shielded tree evaluates alike in any two contexts. The induction is on the tree: below a node
that does not print the two runs keep their contexts apart, and at one that does they meet. -/
theorem evaluate_eq_of_shielded
    {tree : Node}
    (shielded : tree.Shielded) (context other : Context) :
    evaluate context tree = evaluate other tree := by
  induction tree using inductionOn with
  | step tree inductionHypothesis =>
      obtain ⟨notPassing, shielding⟩ := shielded_iff.1 shielded
      cases tree with
      | stray content => rw [evaluate, evaluate]
      | branch label children payload =>
          cases label with
          | other name => rw [evaluate, evaluate]
          | kind kind =>
              rcases shielding with (isPrint | isPrintln) | childrenShielded
              · cases isPrint
                exact evaluate_eq_of_write children payload rfl context other
              · cases isPrintln
                exact evaluate_eq_of_write children payload rfl context other
              · have alike : List.Forall₂ (Alike context other) children children :=
                  List.forall₂_same.2 fun child member =>
                    ⟨inductionHypothesis child member (childrenShielded child member),
                      fun _ _ => Iff.rfl⟩
                exact branch_congr kind payload alike (fun _ _ => rfl)
                  fun passes => absurd passes (notPassing kind rfl)

/-- A conditional whose first branch prints a reference, between a comparison and a stray text. -/
theorem evaluate_eq_of_shielded_conditional :
    ∃ tree : Node,
      tree =
          plain .conditional
            [comparison (named .number "1") .less (plain .sum [named .number "2"]),
              plain .println [named .idNum "x"], .stray (some (.text "y"))] ∧
        tree.Shielded ∧
        evaluate (some (.foreign (.int 5))) tree = evaluate none tree := by
  have numeral (text : String) : (named .number text).Shielded :=
    shielded_branch (by decide) (.inr nofun)
  have marker : (plain (.marker .less) []).Shielded := shielded_branch (by decide) (.inr nofun)
  have total : (plain .sum [named .number "2"]).Shielded :=
    shielded_branch (by decide) (.inr (List.forall_mem_singleton.2 (numeral "2")))
  have condition :
      (comparison (named .number "1") .less (plain .sum [named .number "2"])).Shielded :=
    shielded_branch (by decide) (.inr (by simp [numeral, marker, total]))
  have printing : (plain .println [named .idNum "x"]).Shielded :=
    shielded_branch (by decide) (.inl (by decide))
  have stray : (Node.stray (some (.text "y"))).Shielded := shielded_iff.2 ⟨nofun, .inr nofun⟩
  have shielded :
      (plain .conditional
        [comparison (named .number "1") .less (plain .sum [named .number "2"]),
          plain .println [named .idNum "x"], .stray (some (.text "y"))]).Shielded :=
    shielded_branch (by decide) (.inr (by simp [condition, printing, stray]))
  exact ⟨_, rfl, shielded, evaluate_eq_of_shielded shielded _ _⟩

end Scriptlet.Node
