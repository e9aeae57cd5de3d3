import Mathlib.Data.List.Basic
import Scriptlet.Proofs.Evaluation.Outcome

/-!
# Properties kept by the steps of evaluation

If a property of outcomes is handed on from each step to the next, then evaluating a node has it as
soon as evaluating each of its children has, whether it is about faults or about what is written.
Only what a node does itself remains to be looked at: the fault it ends with and the text it writes.
-/

namespace Scriptlet

/-- The number of children that a role unpacks. -/
def Role.count? : Role → Option Nat
  | .product | .quotient | .remainder => some 2
  | .negation | .identity | .inversion => some 1
  | .comparison | .choice => some 3
  | _ => none

/-- A property of outcomes that values and refused operands have, and that holds of two steps in a
row if it holds of both. -/
structure Outcome.Kept (keeps : (α : Type) → Outcome α → Prop) : Prop where
  value : ∀ {α : Type} (result : α), keeps α (pure result)
  mismatch :
    ∀ {α : Type} (demand : Demand) (found : Value), keeps α (.fail (.mismatch demand found))
  bind :
    ∀ {α β : Type} {first : Outcome α} {next : α → Outcome β},
      keeps α first → (∀ result, first.result = .ok result → keeps β (next result)) →
        keeps β (first >>= next)

theorem Outcome.kept_within
    {allowed : Fault → Prop}
    (mismatch : ∀ demand found, allowed (.mismatch demand found)) :
    Kept fun _ => Within allowed where
  value := within_pure
  mismatch demand found := within_fail (mismatch demand found)
  bind := Within.bind

namespace Node

variable {keeps : (α : Type) → Outcome α → Prop}
  (kept : Outcome.Kept keeps)

include kept

theorem requireInt_kept (value : Value) : keeps Int value.requireInt := by
  cases value with
  | int number => exact kept.value number
  | null | bool _ | text _ | foreign _ => exact kept.mismatch _ _

theorem requireBool_kept (value : Value) : keeps Bool value.requireBool := by
  cases value with
  | bool truth => exact kept.value truth
  | null | int _ | text _ | foreign _ => exact kept.mismatch _ _

/-- What is written is the display of values that are not absent. -/
theorem writeEach_kept
    {nodes : List Node}
    (each : ∀ node ∈ nodes, keeps Value (evaluate none node))
    (written :
      ∀ node ∈ nodes, ∀ value, (evaluate none node).result = .ok value →
        value.isAbsent = false → keeps Unit (.emit value.display)) :
    keeps Unit (writeEach nodes) := by
  induction nodes with
  | nil => exact kept.value ()
  | cons first rest inductionHypothesis =>
      obtain ⟨firstKeeps, restKeep⟩ := List.forall_mem_cons.1 each
      obtain ⟨firstWritten, restWritten⟩ := List.forall_mem_cons.1 written
      have goesOn := inductionHypothesis restKeep restWritten
      rw [writeEach]
      refine kept.bind firstKeeps fun result returned => ?_
      cases absent : result.isAbsent with
      | true => simpa using goesOn
      | false => simpa using kept.bind (firstWritten result returned absent) fun _ _ => goesOn

variable {context : Context}

section Children

variable {nodes : List Node}
  (each : ∀ node ∈ nodes, keeps Value (evaluate context node))

include each

theorem visit_kept : keeps Unit (visit context nodes) := by
  induction nodes with
  | nil => exact kept.value ()
  | cons first rest inductionHypothesis =>
      obtain ⟨firstKeeps, restKeep⟩ := List.forall_mem_cons.1 each
      rw [visit]
      exact kept.bind firstKeeps fun _ _ => inductionHypothesis restKeep

theorem addUp_kept : keeps Int (addUp context nodes) := by
  induction nodes with
  | nil => exact kept.value 0
  | cons first rest inductionHypothesis =>
      obtain ⟨firstKeeps, restKeep⟩ := List.forall_mem_cons.1 each
      rw [addUp]
      refine kept.bind firstKeeps fun result _ => ?_
      refine kept.bind (requireInt_kept kept result) fun number _ => ?_
      exact kept.bind (inductionHypothesis restKeep) fun others _ => kept.value _

theorem holdsAny_kept : keeps Bool (holdsAny context nodes) := by
  induction nodes with
  | nil => exact kept.value false
  | cons first rest inductionHypothesis =>
      obtain ⟨firstKeeps, restKeep⟩ := List.forall_mem_cons.1 each
      rw [holdsAny]
      refine kept.bind firstKeeps fun result _ => ?_
      refine kept.bind (requireBool_kept kept result) fun truth _ => ?_
      cases truth with
      | true => exact kept.value true
      | false => exact inductionHypothesis restKeep

theorem holdsAll_kept : keeps Bool (holdsAll context nodes) := by
  induction nodes with
  | nil => exact kept.value true
  | cons first rest inductionHypothesis =>
      obtain ⟨firstKeeps, restKeep⟩ := List.forall_mem_cons.1 each
      rw [holdsAll]
      refine kept.bind firstKeeps fun result _ => ?_
      refine kept.bind (requireBool_kept kept result) fun truth _ => ?_
      cases truth with
      | true => exact inductionHypothesis restKeep
      | false => exact kept.value false

end Children

/-! ## Operands -/

theorem intOperand_kept
    {operand : Node} {next : Int → Outcome Value}
    (operandKeeps : keeps Value (evaluate context operand))
    (nextKeeps : ∀ number, keeps Value (next number)) :
    keeps Value (do
      let number ← (← evaluate context operand).requireInt
      next number) := by
  refine kept.bind operandKeeps fun result _ => ?_
  exact kept.bind (requireInt_kept kept result) fun number _ => nextKeeps number

theorem boolOperand_kept
    {operand : Node} {next : Bool → Outcome Value}
    (operandKeeps : keeps Value (evaluate context operand))
    (nextKeeps : ∀ truth, keeps Value (next truth)) :
    keeps Value (do
      let truth ← (← evaluate context operand).requireBool
      next truth) := by
  refine kept.bind operandKeeps fun result _ => ?_
  exact kept.bind (requireBool_kept kept result) fun truth _ => nextKeeps truth

theorem intOperands_kept
    {left right : Node} {next : Int → Int → Outcome Value}
    (leftKeeps : keeps Value (evaluate context left))
    (rightKeeps : keeps Value (evaluate context right))
    (nextKeeps : ∀ first second, keeps Value (next first second)) :
    keeps Value (do
      let first ← (← evaluate context left).requireInt
      let second ← (← evaluate context right).requireInt
      next first second) := by
  refine intOperand_kept kept leftKeeps fun first => ?_
  exact intOperand_kept kept rightKeeps (nextKeeps first)

theorem quotientValue_kept
    (division : keeps Value (.fail .divisionByZero)) (dividend divisor : Int) :
    keeps Value (quotientValue dividend divisor) := by
  unfold quotientValue
  split
  · exact kept.value _
  · exact division

theorem remainderValue_kept
    (modulo : keeps Value (.fail .moduloByZero)) (dividend divisor : Int) :
    keeps Value (remainderValue dividend divisor) := by
  unfold remainderValue
  split
  · exact kept.value _
  · exact modulo

/-! ## Nodes -/

/-- One step of evaluation: the property passes from the children to the node if it holds of what
the node writes and of the faults that it can end with. -/
theorem branch_kept
    {kind : Kind} {children : List Node} {payload : Option Payload}
    (each : ∀ child ∈ children, keeps Value (evaluate context child))
    (written : ∀ lineBreak, kind.role = .write lineBreak → keeps Unit (writeEach children))
    (lineBreak : kind = .println → keeps Unit (.emit "\n"))
    (number : kind = .number → keeps Value (numberValue payload))
    (text : kind = .string → keeps Value (textValue payload))
    (division : keeps Value (.fail .divisionByZero))
    (modulo : keeps Value (.fail .moduloByZero))
    (miscounted :
      ∀ expected fault, kind.role.count? = some expected → children.length ≠ expected →
        keeps Value (.fail fault)) :
    keeps Value (evaluate context (.branch (.kind kind) children payload)) := by
  have notPair
      (fault : Fault)
      (unpacks : kind.role.count? = some 2)
      (differs : ∀ left right, children ≠ [left, right]) :
      keeps Value (.fail fault) := by
    refine miscounted 2 fault unpacks fun counted => ?_
    obtain ⟨left, right, pair⟩ := List.length_eq_two.1 counted
    exact differs left right pair
  unfold evaluate
  split
  · exact kept.bind (visit_kept kept each) fun _ _ => kept.value _
  · next breaksLine role =>
      cases breaksLine with
      | true =>
          have isPrintln : kind = .println := by
            cases kind <;> first | rfl | cases role
          refine kept.bind (written true role) fun _ _ => ?_
          exact kept.bind (lineBreak isPrintln) fun _ _ => kept.value _
      | false => exact kept.bind (written false role) fun _ _ => kept.value _
  · next role =>
      have isNumber : kind = .number := by
        cases kind <;> first | rfl | cases role
      exact number isNumber
  · next role =>
      have isString : kind = .string := by
        cases kind <;> first | rfl | cases role
      exact text isString
  · exact kept.value _
  · exact kept.value _
  · exact kept.bind (addUp_kept kept each) fun _ _ => kept.value _
  · next role =>
      split
      · exact intOperands_kept kept (each _ (by simp)) (each _ (by simp)) fun _ _ => kept.value _
      · next differs => exact notPair _ (by rw [role]; rfl) differs
  · next role =>
      split
      · exact intOperands_kept kept (each _ (by simp)) (each _ (by simp))
          (quotientValue_kept kept division)
      · next differs => exact notPair _ (by rw [role]; rfl) differs
  · next role =>
      split
      · exact intOperands_kept kept (each _ (by simp)) (each _ (by simp))
          (remainderValue_kept kept modulo)
      · next differs => exact notPair _ (by rw [role]; rfl) differs
  · next role =>
      split
      · exact intOperand_kept kept (each _ (by simp)) fun _ => kept.value _
      · exact miscounted 1 _ (by rw [role]; rfl) nofun
  · next role =>
      split
      · exact each _ (by simp)
      · exact miscounted 1 _ (by rw [role]; rfl) nofun
  · next role =>
      split
      · exact boolOperand_kept kept (each _ (by simp)) fun _ => kept.value _
      · exact miscounted 1 _ (by rw [role]; rfl) nofun
  · exact kept.bind (holdsAny_kept kept each) fun _ _ => kept.value _
  · exact kept.bind (holdsAll_kept kept each) fun _ _ => kept.value _
  · next role =>
      split
      · exact intOperands_kept kept (each _ (by simp)) (each _ (by simp)) fun _ _ => kept.value _
      · next differs =>
          refine miscounted 3 _ (by rw [role]; rfl) fun counted => ?_
          obtain ⟨left, middle, right, triple⟩ := List.length_eq_three.1 counted
          exact differs left middle right triple
  · next role =>
      split
      · next condition chosen others =>
          refine boolOperand_kept kept (each condition (by simp)) fun truth => ?_
          cases truth with
          | true => exact each chosen (by simp)
          | false =>
              cases others with
              | nil => exact kept.value _
              | cons alternative others =>
                  by_cases sentinel : alternative.kind? = some .null
                  · simpa [sentinel] using kept.value Value.null
                  · simpa [sentinel] using each alternative (by simp)
      · next differs =>
          refine miscounted 3 _ (by rw [role]; rfl) fun counted => ?_
          obtain ⟨condition, chosen, other, triple⟩ := List.length_eq_three.1 counted
          exact differs condition chosen [other] triple

end Node

end Scriptlet
