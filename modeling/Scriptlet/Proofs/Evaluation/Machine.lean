import Mathlib.Data.List.Forall2
import Scriptlet.Proofs.Evaluation.Equations
import Scriptlet.Proofs.Text.Decimal

/-!
# Machine arithmetic

Arithmetic of the language is arithmetic on 32-bit words. Formulas are computed here step by step
on bit vectors, every intermediate result being a word; evaluation works on unbounded integers and
wraps only the result of each node. The two agree on every tree that spells a formula.
-/

namespace Scriptlet

/-! ## Formulas on words -/

/-- An arithmetic formula over literals of any size. -/
inductive Formula where
  | literal (number : Int)
  | sum (terms : List Formula)
  | product (left right : Formula)
  | quotient (dividend divisor : Formula)
  | remainder (dividend divisor : Formula)
  | negation (operand : Formula)
  | identity (operand : Formula)

/-- The instruction at which a zero divisor stops the machine. -/
inductive Trap where
  | division
  | modulo
  deriving DecidableEq, Repr

namespace Trap

def fault : Trap → Fault
  | division => .divisionByZero
  | modulo => .moduloByZero

def message : Trap → String
  | division => "Division by zero"
  | modulo => "Modulo by zero"

theorem message_fault (trap : Trap) : trap.fault.message = trap.message := by
  cases trap <;> rfl

end Trap

abbrev Word := BitVec 32

namespace Word

def divide (dividend divisor : Word) : Except Trap Word :=
  if divisor = 0 then .error .division else .ok (dividend.sdiv divisor)

def modulo (dividend divisor : Word) : Except Trap Word :=
  if divisor = 0 then .error .modulo else .ok (dividend.srem divisor)

end Word

namespace Formula

mutual

/-- Computes a formula on words, operands from left to right before their operator. -/
def compute : Formula → Except Trap Word
  | literal number => .ok (BitVec.ofInt 32 number)
  | sum terms => accumulate 0 terms
  | product left right => do
      let first ← left.compute
      let second ← right.compute
      return first * second
  | quotient dividend divisor => do
      let first ← dividend.compute
      let second ← divisor.compute
      Word.divide first second
  | remainder dividend divisor => do
      let first ← dividend.compute
      let second ← divisor.compute
      Word.modulo first second
  | negation operand => do
      let word ← operand.compute
      return -word
  | identity operand => operand.compute

/-- Adds terms to a total one by one. -/
def accumulate (total : Word) : List Formula → Except Trap Word
  | [] => .ok total
  | first :: rest => do
      let word ← first.compute
      accumulate (total + word) rest

end

end Formula

/-! ## Trees that spell formulas -/

/-- A tree that spells a formula. What evaluation ignores is free: the children of a number and
the payloads of the operators. -/
inductive Node.Spells : Node → Formula → Prop
  | integer {children : List Node} {number : Int} :
      Spells (.branch (.kind .number) children (some (.scalar (.int number)))) (.literal number)
  | decimal {children : List Node} {text : String} {number : Int} :
      Text.Numeral.Denotes text.toList number →
      Spells (.branch (.kind .number) children (some (.scalar (.text text)))) (.literal number)
  | sum {children : List Node} {payload : Option Payload} {terms : List Formula} :
      List.Forall₂ Spells children terms →
      Spells (.branch (.kind .sum) children payload) (.sum terms)
  | product {leftNode rightNode : Node} {payload : Option Payload} {left right : Formula} :
      Spells leftNode left → Spells rightNode right →
      Spells (.branch (.kind .mul) [leftNode, rightNode] payload) (.product left right)
  | quotient {leftNode rightNode : Node} {payload : Option Payload} {left right : Formula} :
      Spells leftNode left → Spells rightNode right →
      Spells (.branch (.kind .div) [leftNode, rightNode] payload) (.quotient left right)
  | remainder {leftNode rightNode : Node} {payload : Option Payload} {left right : Formula} :
      Spells leftNode left → Spells rightNode right →
      Spells (.branch (.kind .mod) [leftNode, rightNode] payload) (.remainder left right)
  | negation {node : Node} {payload : Option Payload} {operand : Formula} :
      Spells node operand →
      Spells (.branch (.kind .neg) [node] payload) (.negation operand)
  | identity {node : Node} {payload : Option Payload} {operand : Formula} :
      Spells node operand →
      Spells (.branch (.kind .pos) [node] payload) (.identity operand)

/-! ## Words and wrapped integers -/

namespace Integer

theorem wrap_eq_toInt_ofInt (number : Int) :
    wrap number = (BitVec.ofInt 32 number).toInt := by
  rw [BitVec.toInt_ofInt]
  rfl

theorem wrap_mul_toInt (left right : Word) :
    wrap (left.toInt * right.toInt) = (left * right).toInt := by
  rw [BitVec.toInt_mul]
  rfl

theorem wrap_neg_toInt (word : Word) : wrap (-word.toInt) = (-word).toInt := by
  rw [BitVec.toInt_neg]
  rfl

theorem wrap_tdiv_toInt (left right : Word) :
    wrap (left.toInt.tdiv right.toInt) = (left.sdiv right).toInt := by
  rw [BitVec.toInt_sdiv]
  rfl

theorem wrap_sub_tdiv_mul_toInt (left right : Word) :
    wrap (left.toInt - left.toInt.tdiv right.toInt * right.toInt) =
      (left.srem right).toInt := by
  have remainder :
      left.toInt - left.toInt.tdiv right.toInt * right.toInt = (left.srem right).toInt := by
    rw [BitVec.toInt_srem, Int.tmod_def, Int.mul_comm]
  rw [remainder, wrap_eq_toInt_ofInt, BitVec.ofInt_toInt]

end Integer

namespace Node

/-- The outcome that a machine result stands for. -/
def machineOutcome : Except Trap Word → Outcome Value
  | .ok word => .value (.int word.toInt)
  | .error trap => .fail trap.fault

theorem toInt_eq_zero_iff {word : Word} : word.toInt = 0 ↔ word = 0 := by
  constructor
  · intro zero
    apply BitVec.eq_of_toInt_eq
    simpa using zero
  · rintro rfl
    rfl

theorem quotientValue_toInt (dividend divisor : Word) :
    quotientValue dividend.toInt divisor.toInt =
      machineOutcome (Word.divide dividend divisor) := by
  by_cases zero : divisor = 0
  · subst zero
    rfl
  · have nonzero : divisor.toInt ≠ 0 := fun isZero => zero (toInt_eq_zero_iff.1 isZero)
    simp only [quotientValue, Integer.divMod?, nonzero, if_false, Word.divide, zero,
      Integer.wrap_tdiv_toInt]
    rfl

theorem remainderValue_toInt (dividend divisor : Word) :
    remainderValue dividend.toInt divisor.toInt =
      machineOutcome (Word.modulo dividend divisor) := by
  by_cases zero : divisor = 0
  · subst zero
    rfl
  · have nonzero : divisor.toInt ≠ 0 := fun isZero => zero (toInt_eq_zero_iff.1 isZero)
    simp only [remainderValue, Integer.divMod?, nonzero, if_false, Word.modulo, zero,
      Integer.wrap_sub_tdiv_mul_toInt]
    rfl

/-- Requiring the integer of a machine outcome and going on with it is going on with the word. -/
theorem requireInt_machineOutcome_bind
    (result : Except Trap Word)
    {onInteger : Int → Outcome Value} {onWord : Word → Except Trap Word}
    (agrees : ∀ word : Word, onInteger word.toInt = machineOutcome (onWord word)) :
    (do
      let number ← (← machineOutcome result).requireInt
      onInteger number) = machineOutcome (result >>= onWord) := by
  cases result with
  | ok word => exact agrees word
  | error trap => rfl

/-! ## Evaluation agrees with the machine -/

mutual

theorem evaluate_of_spells
    (formula : Formula) {node : Node}
    (spelled : node.Spells formula) (context : Context) :
    evaluate context node = machineOutcome formula.compute := by
  match formula with
  | .literal number =>
      cases spelled with
      | integer =>
          rw [evaluate_number, Formula.compute, machineOutcome, ← Integer.wrap_eq_toInt_ofInt]
          rfl
      | decimal denotes =>
          have read := Text.Numeral.read_of_denotes denotes
          rw [evaluate_number, Formula.compute, machineOutcome, ← Integer.wrap_eq_toInt_ofInt]
          simp only [numberValue, Payload.plainOf, Payload.plain, Scalar.plain, read]
  | .sum terms =>
      cases spelled with
      | sum spelledTerms =>
          have added := addUp_of_spells terms spelledTerms 0 context
          rw [evaluate_sum, Formula.compute, ← added]
          simp
  | .product left right =>
      cases spelled with
      | product spelledLeft spelledRight =>
          rw [evaluate_mul, Formula.compute, evaluate_of_spells left spelledLeft context,
            evaluate_of_spells right spelledRight context]
          apply requireInt_machineOutcome_bind
          intro first
          apply requireInt_machineOutcome_bind
          intro second
          rw [Integer.wrap_mul_toInt]
          rfl
  | .quotient left right =>
      cases spelled with
      | quotient spelledLeft spelledRight =>
          rw [evaluate_div, Formula.compute, evaluate_of_spells left spelledLeft context,
            evaluate_of_spells right spelledRight context]
          apply requireInt_machineOutcome_bind
          intro first
          apply requireInt_machineOutcome_bind
          intro second
          exact quotientValue_toInt first second
  | .remainder left right =>
      cases spelled with
      | remainder spelledLeft spelledRight =>
          rw [evaluate_mod, Formula.compute, evaluate_of_spells left spelledLeft context,
            evaluate_of_spells right spelledRight context]
          apply requireInt_machineOutcome_bind
          intro first
          apply requireInt_machineOutcome_bind
          intro second
          exact remainderValue_toInt first second
  | .negation operand =>
      cases spelled with
      | negation spelledOperand =>
          rw [evaluate_neg, Formula.compute, evaluate_of_spells operand spelledOperand context]
          apply requireInt_machineOutcome_bind
          intro word
          rw [Integer.wrap_neg_toInt]
          rfl
  | .identity operand =>
      cases spelled with
      | identity spelledOperand =>
          rw [evaluate_pos, Formula.compute]
          exact evaluate_of_spells operand spelledOperand context

/-- The wrap of a sum at its end is what adding word by word gives. The total of the words so far
is carried along. -/
theorem addUp_of_spells
    (terms : List Formula) {children : List Node}
    (spelled : List.Forall₂ Spells children terms) (total : Word) (context : Context) :
    (do
      let added ← addUp context children
      return .int (Integer.wrap (total.toInt + added))) =
        machineOutcome (Formula.accumulate total terms) := by
  match terms with
  | [] =>
      cases spelled with
      | nil =>
          have unchanged : Integer.wrap (total.toInt + 0) = total.toInt := by
            rw [Int.add_zero, Integer.wrap_eq_toInt_ofInt, BitVec.ofInt_toInt]
          rw [addUp, Formula.accumulate, pure_bind, unchanged]
          rfl
  | first :: rest =>
      cases spelled with
      | cons spelledFirst spelledRest =>
          rw [addUp, Formula.accumulate]
          simp only [evaluate_of_spells first spelledFirst context, bind_assoc, pure_bind]
          apply requireInt_machineOutcome_bind
          intro word
          rw [← addUp_of_spells rest spelledRest (total + word) context]
          refine bind_congr fun others => ?_
          have regrouped :
              Integer.wrap (total.toInt + (word.toInt + others)) =
                Integer.wrap ((total + word).toInt + others) := by
            simp only [Integer.wrap_eq_toInt_ofInt, BitVec.ofInt_add, BitVec.ofInt_toInt,
              BitVec.add_assoc]
          rw [regrouped]

end

/-- Every tree that spells a formula evaluates, in any context and without output, as the machine
computes it: to the signed reading of the word, or to the fault of the first zero divisor. -/
theorem evaluate_eq_machine
    {node : Node} {formula : Formula}
    (spelled : node.Spells formula) (context : Context) :
    (evaluate context node).output = [] ∧
      match formula.compute with
      | .ok word => (evaluate context node).result = .ok (.int word.toInt)
      | .error trap =>
          (evaluate context node).result = .error trap.fault ∧
            trap.fault.message = trap.message := by
  have agrees := evaluate_of_spells formula spelled context
  cases computed : formula.compute with
  | ok word =>
      rw [computed] at agrees
      rw [agrees]
      exact ⟨rfl, rfl⟩
  | error trap =>
      rw [computed] at agrees
      rw [agrees]
      exact ⟨rfl, rfl, trap.message_fault⟩

/-- The least number, reached by an overflow, divided by minus one. -/
theorem evaluate_least_quotient :
    ∃ least : Node,
      least =
          plain .sum [named .number "2147483647",
            .branch (.kind .number) [] (some (.scalar (.int 1)))] ∧
        (evaluate none (plain .div [least, plain .neg [named .number "1"]])).output = [] ∧
        (evaluate none (plain .div [least, plain .neg [named .number "1"]])).result =
          .ok (.int (-2147483648)) := by
  refine ⟨_, rfl, ?_⟩
  have greatest : Text.Numeral.Denotes "2147483647".toList 2147483647 :=
    Text.Numeral.denotes_of_isDigit (by decide) (List.all_eq_true.1 (by decide)) (by decide)
  have unit : Text.Numeral.Denotes "1".toList 1 :=
    Text.Numeral.denotes_of_isDigit (by decide) (List.all_eq_true.1 (by decide)) (by decide)
  have spelled :
      Spells
        (plain .div
          [plain .sum [named .number "2147483647",
              .branch (.kind .number) [] (some (.scalar (.int 1)))],
            plain .neg [named .number "1"]])
        (.quotient (.sum [.literal 2147483647, .literal 1]) (.negation (.literal 1))) :=
    .quotient (.sum (.cons (.decimal greatest) (.cons .integer .nil))) (.negation (.decimal unit))
  have computed :
      (Formula.quotient (.sum [.literal 2147483647, .literal 1])
        (.negation (.literal 1))).compute = .ok (BitVec.ofInt 32 (-2147483648)) := by
    decide
  have agrees := evaluate_eq_machine spelled none
  rw [computed] at agrees
  exact agrees

end Node

end Scriptlet
