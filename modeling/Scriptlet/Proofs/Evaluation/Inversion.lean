import Scriptlet.Proofs.Evaluation.Equations

/-!
# Inverting conditions

A truth value may be inverted at the top of a condition or at its operands. Inverting a disjunction
is the conjunction of the inverted operands and the other way round, and inverting a comparison is
comparing by the complement of its relation. Besides the truth value, the operand at which
evaluation stops, the output up to there and the fault stay the same.
-/

namespace Scriptlet

namespace Relation

/-- The relation that holds exactly where the given one does not. -/
def complement : Relation → Relation
  | less => greaterOrEqual
  | lessOrEqual => greater
  | greater => lessOrEqual
  | greaterOrEqual => less
  | equal => different
  | different => equal

theorem holds_complement (relation : Relation) (left right : Int) :
    relation.complement.holds left right = !relation.holds left right := by
  cases relation with
  | less | greater =>
      rw [complement, holds, holds, ← decide_not, decide_eq_decide]
      exact Int.not_lt.symm
  | lessOrEqual | greaterOrEqual =>
      rw [complement, holds, holds, ← decide_not, decide_eq_decide]
      exact Int.not_le.symm
  | equal => rfl
  | different => exact (Bool.not_not _).symm

end Relation

namespace Node

def inverted (operand : Node) : Node :=
  plain .inversion [operand]

variable (context : Context)

theorem evaluate_inverted (operand : Node) :
    evaluate context operand.inverted = do
      let truth ← (← evaluate context operand).requireBool
      return .bool (!truth) :=
  evaluate_inversion context none operand

/-! ## Operands one by one -/

/-- Where one of the operands is true its inversion is false, so both sides stop at it. -/
theorem holdsAll_map_inverted (operands : List Node) :
    holdsAll context (operands.map inverted) = do
      let truth ← holdsAny context operands
      return !truth := by
  induction operands with
  | nil => rfl
  | cons first rest inductionHypothesis =>
      rw [List.map_cons, holdsAll, holdsAny, inductionHypothesis, evaluate_inverted]
      simp only [bind_assoc, pure_bind, requireBool_bool]
      refine bind_congr fun result => bind_congr fun truth => ?_
      cases truth with
      | true => rfl
      | false => rfl

theorem holdsAny_map_inverted (operands : List Node) :
    holdsAny context (operands.map inverted) = do
      let truth ← holdsAll context operands
      return !truth := by
  induction operands with
  | nil => rfl
  | cons first rest inductionHypothesis =>
      rw [List.map_cons, holdsAny, holdsAll, inductionHypothesis, evaluate_inverted]
      simp only [bind_assoc, pure_bind, requireBool_bool]
      refine bind_congr fun result => bind_congr fun truth => ?_
      cases truth with
      | true => rfl
      | false => rfl

/-! ## Conditions -/

theorem evaluate_inverted_disjunction (operands : List Node) :
    evaluate context (plain .disjunction operands).inverted =
      evaluate context (plain .conjunction (operands.map inverted)) := by
  rw [evaluate_inverted, plain, plain, evaluate_disjunction, evaluate_conjunction,
    holdsAll_map_inverted]
  simp only [bind_assoc, pure_bind, requireBool_bool]

theorem evaluate_inverted_conjunction (operands : List Node) :
    evaluate context (plain .conjunction operands).inverted =
      evaluate context (plain .disjunction (operands.map inverted)) := by
  rw [evaluate_inverted, plain, plain, evaluate_conjunction, evaluate_disjunction,
    holdsAny_map_inverted]
  simp only [bind_assoc, pure_bind, requireBool_bool]

theorem evaluate_inverted_comparison (left right : Node) (relation : Relation) :
    evaluate context (comparison left relation right).inverted =
      evaluate context (comparison left relation.complement right) := by
  rw [evaluate_inverted, evaluate_comparison, evaluate_comparison]
  simp only [bind_assoc, pure_bind, requireBool_bool, Relation.holds_complement]

/-- Inversion moves inward through disjunctions, conjunctions and comparisons, and evaluation in
any context gives the same value, output and fault. -/
theorem evaluate_inverted_inward :
    (∀ operands : List Node,
      evaluate context (plain .disjunction operands).inverted =
        evaluate context (plain .conjunction (operands.map inverted))) ∧
    (∀ operands : List Node,
      evaluate context (plain .conjunction operands).inverted =
        evaluate context (plain .disjunction (operands.map inverted))) ∧
    ∀ (left right : Node) (relation : Relation),
      evaluate context (comparison left relation right).inverted =
        evaluate context (comparison left relation.complement right) :=
  ⟨evaluate_inverted_disjunction context, evaluate_inverted_conjunction context,
    evaluate_inverted_comparison context⟩

end Node

end Scriptlet
