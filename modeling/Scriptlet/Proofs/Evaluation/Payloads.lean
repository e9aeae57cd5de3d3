import Scriptlet.Proofs.Evaluation.Congruence
import Scriptlet.Proofs.Evaluation.Equations
import Scriptlet.Proofs.Evaluation.Faults
import Scriptlet.Proofs.Evaluation.Values
import Scriptlet.Proofs.Text.Decimal

/-!
# Two forms of payloads

A number may carry its digits or the integer that they denote, and a comparison may carry its
relation or leave it to the marker between its operands. Parsed trees have digits and relations
throughout. Recasting such a tree into the other forms changes nothing about its evaluation, as long
as its numbers are short enough to be read.
-/

namespace Scriptlet

/-! ## Recasting -/

/-- The other form of a payload: the integer that the digits of a number denote, and nothing in
place of a comparison's relation. -/
def Label.recast : Label → Option Payload → Option Payload
  | .kind .number, some (.scalar (.text digits)) =>
      some (.scalar (.int (Nat.ofDigitChars 10 digits.toList 0)))
  | .kind .comparison, some (.relation _) => none
  | _, payload => payload

namespace Node

mutual

/-- A tree with every payload in its other form. -/
def recast : Node → Node
  | branch label children payload => branch label (recastAll children) (label.recast payload)
  | stray content => stray content

def recastAll : List Node → List Node
  | [] => []
  | first :: rest => recast first :: recastAll rest

end

theorem recastAll_eq_map (nodes : List Node) : recastAll nodes = nodes.map recast := by
  induction nodes with
  | nil => rfl
  | cons first rest inductionHypothesis =>
      rw [recastAll, inductionHypothesis, List.map_cons]

/-! ## Reading either form -/

/-- A text of digits that is short enough to be read as the integer that it denotes. -/
def ReadableDigits (digits : String) : Prop :=
  Text.Numeral.Denotes digits.toList (Nat.ofDigitChars 10 digits.toList 0)

theorem evaluate_number_recast
    {digits : String} (children : List Node)
    (readable : ReadableDigits digits) (context : Context) :
    evaluate context
        (.branch (.kind .number) children
          (Label.recast (.kind .number) (some (.scalar (.text digits))))) =
      evaluate context (.branch (.kind .number) children (some (.scalar (.text digits)))) := by
  have read := Text.Numeral.read_of_denotes readable
  rw [evaluate_number, evaluate_number]
  simp only [Label.recast, numberValue, Payload.plainOf, Payload.plain, Scalar.plain, read]

/-- The marker of a comparison names the relation that its payload gives. -/
theorem evaluate_comparison_recast
    (left right : Node) (relation : Relation) (context : Context) :
    evaluate context
        (.branch (.kind .comparison) [left, plain (.marker relation) [], right]
          (Label.recast (.kind .comparison) (some (.relation relation)))) =
      evaluate context (comparison left relation right) :=
  rfl

theorem recast_of_ne
    {kind : Kind} (payload : Option Payload)
    (notNumber : kind ≠ .number)
    (notComparison : kind ≠ .comparison) :
    Label.recast (.kind kind) payload = payload := by
  unfold Label.recast
  split
  · next isNumber =>
      cases isNumber
      exact absurd rfl notNumber
  · next isComparison =>
      cases isComparison
      exact absurd rfl notComparison
  · rfl

/-- One step of evaluation: the two forms of a node's own payload make no difference. -/
theorem evaluate_recast_payload
    {kind : Kind} {children : List Node} {payload : Option Payload}
    (takes : kind.takes children.length = true)
    (number :
      kind = .number → ∃ digits, payload = some (.scalar (.text digits)) ∧ ReadableDigits digits)
    (rule : kind.Rule children payload) (context : Context) :
    evaluate context (.branch (.kind kind) children (Label.recast (.kind kind) payload)) =
      evaluate context (.branch (.kind kind) children payload) := by
  by_cases isNumber : kind = .number
  · obtain ⟨digits, rfl, readable⟩ := number isNumber
    subst isNumber
    exact evaluate_number_recast children readable context
  · by_cases isComparison : kind = .comparison
    · subst isComparison
      obtain ⟨left, middle, right, rfl⟩ := List.length_eq_three.1 (Kind.eq_of_takes takes rfl)
      obtain ⟨relation, rfl, isMarker⟩ := rule
      cases isMarker
      exact evaluate_comparison_recast left right relation context
    · rw [recast_of_ne payload isNumber isComparison]

/-- A recast tree is interchangeable with the tree itself if its numbers can be read and its
comparisons agree with their markers. -/
theorem Regular.interchangeable_recast
    {node : Node}
    (regular : node.Regular ReadableDigits)
    (conforms : node.Conforms) :
    Interchangeable node.recast node := by
  induction regular with
  | @branch kind children payload takes _ number _ inductionHypothesis =>
      cases conforms with
      | intro admits childrenConform =>
          have sameChildren : List.Forall₂ Interchangeable (recastAll children) children := by
            rw [recastAll_eq_map, List.forall₂_map_left_iff]
            refine List.forall₂_same.2 fun child member => ?_
            exact inductionHypothesis child member (childrenConform child member)
          rw [recast]
          refine (Interchangeable.branch sameChildren).trans (.of_kind ?_)
          exact evaluate_recast_payload takes number (Kind.Admits.rule admits)

end Node

/-! ## Programs -/

/-- The digits of a number that is not too long are read as the integer that they denote. -/
theorem Token.readableDigits
    (token : Token)
    (isNumber : token.terminal = .number)
    (fits : token.lexeme.Fits)
    (short : token.text.length ≤ Text.Numeral.digitLimit) :
    Node.ReadableDigits token.text := by
  have matched : token.text.toList ∈ Terminal.number.pattern := by
    rw [← isNumber]
    exact fits
  obtain ⟨nonempty, allDigits⟩ := Lexing.digits_of_mem_pattern_number matched
  exact Text.Numeral.denotes_of_isDigit nonempty allDigits (by rwa [String.length_toList])

namespace Program

/-- Running a program whose numbers have at most 4300 digits gives what evaluating its recast tree
gives: the same value or fault, and the same output. -/
theorem run_eq_evaluate_recast
    {source : String} {parsed : Parsed}
    (succeeded : Parsed.ofText source = .ok parsed)
    (short :
      ∀ token ∈ parsed.tokens, token.terminal = .number →
        token.text.length ≤ Text.Numeral.digitLimit)
    (context : Context) :
    Program.run source context =
      .ok ((Program.unwrapped (parsed.tree .compact)).recast.evaluate context) := by
  have fits := Parsed.fits_of_ofText_eq_ok succeeded
  have readable :
      ∀ lexeme ∈ parsed.derivation.lexemes,
        lexeme.1 = .number → Node.ReadableDigits lexeme.2 := by
    intro lexeme member isNumber
    obtain ⟨token, tokenMember, rfl, tokenFits⟩ :=
      Parsed.exists_token_of_mem_lexemes succeeded member
    exact token.readableDigits isNumber tokenFits (short token tokenMember isNumber)
  have regular := Node.regular_unwrapped (Derivation.lower_regular parsed.derivation readable)
  have conforms := (parsed.derivation.lower_conforms fits).1.unwrapped
  have same := regular.interchangeable_recast conforms
  simp only [Program.run, Program.tree, succeeded]
  exact congrArg Except.ok (same.evaluates context).symm

/-- A number that wraps and one with leading zeros in a comparison, and a comparison that decides
for a division by zero. -/
theorem run_eq_evaluate_recast_of_comparisons :
    ∃ (source : String) (parsed : Parsed),
      source = "println(4294967297 < 007);\nif (1 == 1 && 2 != 3) \x7b1 / 0;\x7d" ∧
        Parsed.ofText source = .ok parsed ∧
        (∀ token ∈ parsed.tokens, token.terminal = .number →
          token.text.length ≤ Text.Numeral.digitLimit) ∧
        Program.run source none =
          .ok ((Program.unwrapped (parsed.tree .compact)).recast.evaluate none) := by
  have checked :
      (Parsed.ofText
          "println(4294967297 < 007);\nif (1 == 1 && 2 != 3) \x7b1 / 0;\x7d").toOption.any
        (·.tokens.all fun token =>
          token.terminal != .number || token.text.length ≤ Text.Numeral.digitLimit) = true := by
    decide +kernel
  cases succeeded :
      Parsed.ofText "println(4294967297 < 007);\nif (1 == 1 && 2 != 3) \x7b1 / 0;\x7d" with
  | error error =>
      rw [succeeded] at checked
      cases checked
  | ok parsed =>
      rw [succeeded] at checked
      have short :
          ∀ token ∈ parsed.tokens, token.terminal = .number →
            token.text.length ≤ Text.Numeral.digitLimit := by
        intro token member isNumber
        have tokenChecked := List.all_eq_true.1 checked token member
        simpa [isNumber] using tokenChecked
      exact ⟨_, parsed, rfl, succeeded, short, run_eq_evaluate_recast succeeded short none⟩

end Program

end Scriptlet
