import Scriptlet.Proofs.Evaluation.Steps
import Scriptlet.Proofs.Evaluation.Values
import Scriptlet.Proofs.Tree.Occurrence

/-!
# Output of evaluation

What evaluation can write. Only print nodes write, and they evaluate their children without
context, so each piece of output is a line break or shows a value that the language made itself: a
truth value, a number in range or a text of the tree. A context is handed on but never written.
-/

namespace Scriptlet

/-! ## Pieces of outcomes -/

namespace Outcome

variable {α β : Type} {holds : String → Prop}

/-- Every piece that an outcome wrote has the property, however the outcome ended. -/
def Writes (holds : String → Prop) (outcome : Outcome α) : Prop :=
  ∀ piece ∈ outcome.output, holds piece

theorem writes_pure (result : α) : (pure result : Outcome α).Writes holds :=
  List.forall_mem_nil _

theorem writes_fail (fault : Fault) : (fail fault : Outcome α).Writes holds :=
  List.forall_mem_nil _

theorem writes_emit
    {text : String}
    (has : holds text) :
    (emit text).Writes holds :=
  List.forall_mem_singleton.2 has

theorem Writes.bind
    {first : Outcome α} {next : α → Outcome β}
    (firstWrites : first.Writes holds)
    (nextWrites : ∀ result, first.result = .ok result → (next result).Writes holds) :
    (first >>= next).Writes holds := by
  cases ended : first.result with
  | ok result =>
      rw [bind_eq_of_ok ended]
      exact List.forall_mem_append.2 ⟨firstWrites, nextWrites result ended⟩
  | error fault =>
      rw [bind_eq_of_error ended]
      exact firstWrites

theorem kept_writes (holds : String → Prop) : Kept fun _ => Writes holds where
  value := writes_pure
  mismatch _ _ := writes_fail _
  bind := Writes.bind

end Outcome

namespace Node

theorem numberValue_writes
    {holds : String → Prop} (payload : Option Payload) :
    (numberValue payload).Writes holds := by
  unfold numberValue
  split
  · exact Outcome.writes_pure _
  · split
    · exact Outcome.writes_pure _
    · exact Outcome.writes_fail _

theorem textValue_writes
    {holds : String → Prop} (payload : Option Payload) :
    (textValue payload).Writes holds := by
  unfold textValue
  split
  · exact Outcome.writes_pure _
  · exact Outcome.writes_fail _

/-! ## Pieces of trees -/

/-- Some text node of the tree has this text as its value. -/
def Says (tree : Node) (content : String) : Prop :=
  ∃ part,
    tree.Contains part ∧ part.kind? = some .string ∧
      ∀ context, part.evaluate context = pure (.text content)

theorem speaks_says (tree : Node) : tree.Speaks tree.Says := by
  refine everywhere_of_contains fun part contained children payload isString => ?_
  subst isString
  unfold textValue
  split
  · next writable =>
      exact Outcome.yields_pure ⟨_, contained, rfl, fun _ => if_pos writable⟩
  · exact Outcome.yields_fail _

/-- What evaluating a tree may write. -/
inductive Piece (tree : Node) : String → Prop
  | lineBreak {part : Node} :
      tree.Contains part → part.kind? = some .println → Piece tree "\n"
  | yes : Piece tree "true"
  | no : Piece tree "false"
  | number {number : Int} :
      Integer.least ≤ number → number ≤ Integer.greatest → Piece tree (toString number)
  | text {content : String} : tree.Says content → Piece tree content

/-- A computed value that is not absent is written as a piece. -/
theorem piece_display
    {tree : Node} {value : Value}
    (computed : value.Computed tree.Says)
    (present : value.isAbsent = false) :
    Piece tree value.display := by
  cases value with
  | null => cases present
  | int number => exact .number computed.1 computed.2
  | bool truth =>
      cases truth with
      | true => exact .yes
      | false => exact .no
  | text content => exact .text computed
  | foreign scalar => cases computed

/-- Evaluating a part of a tree writes pieces of the tree. The children of a print node are
evaluated without context, so that their values are computed ones. -/
theorem evaluate_writes
    {tree node : Node}
    (inside : node.Everywhere tree.Contains)
    (speaks : node.Speaks tree.Says) (context : Context) :
    (evaluate context node).Writes (Piece tree) := by
  induction inside generalizing context with
  | @intro node here _ inductionHypothesis =>
      cases node with
      | stray content =>
          rw [evaluate]
          exact Outcome.writes_fail _
      | branch label children payload =>
          cases label with
          | other name =>
              rw [evaluate]
              exact Outcome.writes_fail _
          | kind kind =>
              have childrenSpeak : ∀ child ∈ children, child.Speaks tree.Says := by
                cases speaks with
                | intro _ below => exact below
              have write (context : Context) :
                  ∀ child ∈ children, (evaluate context child).Writes (Piece tree) :=
                fun child member =>
                  inductionHypothesis child member (childrenSpeak child member) context
              have kept := Outcome.kept_writes (Piece tree)
              refine branch_kept kept (write context) ?_ ?_ (fun _ => numberValue_writes _)
                (fun _ => textValue_writes _) (Outcome.writes_fail _) (Outcome.writes_fail _)
                fun _ _ _ _ => Outcome.writes_fail _
              · intro _ _
                refine writeEach_kept kept (write none) ?_
                intro child member value returned present
                rcases evaluate_yields (childrenSpeak child member) none value returned with
                  handedOn | computed
                · cases handedOn
                · exact Outcome.writes_emit (piece_display computed present)
              · rintro rfl
                exact Outcome.writes_emit (.lineBreak here rfl)

/-- Evaluating any tree in any context returns the context or a value of the language's own making,
and writes nothing but line breaks, truth values, numbers in range and texts of the tree. -/
theorem evaluate_returns_and_writes (tree : Node) (context : Context) :
    (evaluate context tree).Yields
        (fun value => context = some value ∨ value.Computed tree.Says) ∧
      (evaluate context tree).Writes (Piece tree) := by
  have inside : tree.Everywhere tree.Contains := everywhere_of_contains fun _ contained => contained
  constructor
  · exact evaluate_yields tree.speaks_says context
  · exact evaluate_writes inside tree.speaks_says context

end Node

end Scriptlet
