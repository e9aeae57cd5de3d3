import Scriptlet.Proofs.Evaluation.Outcome

/-!
# Equations of evaluation

What evaluation does at a node, kind by kind, for the kinds that later proofs look into.
-/

namespace Scriptlet.Node

variable (context : Context) (children : List Node) (payload : Option Payload)

theorem requireInt_int (number : Int) : (Value.int number).requireInt = pure number :=
  rfl

theorem requireBool_bool (truth : Bool) : (Value.bool truth).requireBool = pure truth :=
  rfl

theorem evaluate_body :
    evaluate context (.branch (.kind .body) children payload) =
      visit context children >>= fun _ => pure (context.getD .null) :=
  rfl

theorem evaluate_number :
    evaluate context (.branch (.kind .number) children payload) = numberValue payload :=
  rfl

theorem evaluate_string :
    evaluate context (.branch (.kind .string) children payload) = textValue payload :=
  rfl

theorem evaluate_trueLiteral :
    evaluate context (.branch (.kind .trueLiteral) children payload) = pure (.bool true) :=
  rfl

theorem evaluate_falseLiteral :
    evaluate context (.branch (.kind .falseLiteral) children payload) = pure (.bool false) :=
  rfl

theorem evaluate_sum :
    evaluate context (.branch (.kind .sum) children payload) =
      addUp context children >>= fun total => pure (.int (Integer.wrap total)) :=
  rfl

theorem evaluate_mul (left right : Node) :
    evaluate context (.branch (.kind .mul) [left, right] payload) = do
      let first ← (← evaluate context left).requireInt
      let second ← (← evaluate context right).requireInt
      return .int (Integer.wrap (first * second)) :=
  rfl

theorem evaluate_div (left right : Node) :
    evaluate context (.branch (.kind .div) [left, right] payload) =
      (do
        let first ← (← evaluate context left).requireInt
        let second ← (← evaluate context right).requireInt
        quotientValue first second) :=
  rfl

theorem evaluate_mod (left right : Node) :
    evaluate context (.branch (.kind .mod) [left, right] payload) =
      (do
        let first ← (← evaluate context left).requireInt
        let second ← (← evaluate context right).requireInt
        remainderValue first second) :=
  rfl

theorem evaluate_neg (operand : Node) :
    evaluate context (.branch (.kind .neg) [operand] payload) = do
      let number ← (← evaluate context operand).requireInt
      return .int (Integer.wrap (-number)) :=
  rfl

theorem evaluate_pos (operand : Node) :
    evaluate context (.branch (.kind .pos) [operand] payload) = evaluate context operand :=
  rfl

theorem evaluate_disjunction :
    evaluate context (.branch (.kind .disjunction) children payload) =
      holdsAny context children >>= fun truth => pure (.bool truth) :=
  rfl

theorem evaluate_conjunction :
    evaluate context (.branch (.kind .conjunction) children payload) =
      holdsAll context children >>= fun truth => pure (.bool truth) :=
  rfl

theorem evaluate_inversion (operand : Node) :
    evaluate context (.branch (.kind .inversion) [operand] payload) = do
      let truth ← (← evaluate context operand).requireBool
      return .bool (!truth) :=
  rfl

theorem evaluate_comparison (left right : Node) (relation : Relation) :
    evaluate context (comparison left relation right) = do
      let first ← (← evaluate context left).requireInt
      let second ← (← evaluate context right).requireInt
      return .bool (relation.holds first second) :=
  rfl

/-- Printing with a line break is printing without one and then breaking the line. -/
theorem evaluate_println :
    evaluate context (.branch (.kind .println) children payload) =
      evaluate context (plain .print children) >>= fun _ =>
        Outcome.emit "\n" >>= fun _ => pure .null := by
  have plainly :
      evaluate context (plain .print children) = writeEach children >>= fun _ => pure .null :=
    rfl
  rw [plainly, bind_assoc]
  rfl

theorem evaluate_conditional (condition chosen alternative : Node) :
    evaluate context (.branch (.kind .conditional) [condition, chosen, alternative] payload) =
      (do
        let truth ← (← evaluate context condition).requireBool
        if truth then evaluate context chosen
        else if alternative.kind? = some .null then pure .null
        else evaluate context alternative) :=
  rfl

end Scriptlet.Node
