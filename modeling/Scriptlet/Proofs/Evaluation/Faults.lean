import Scriptlet.Proofs.Evaluation.Steps
import Scriptlet.Proofs.Parsing.Soundness
import Scriptlet.Proofs.Text.Numeral
import Scriptlet.Proofs.Tree.Regular

/-!
# Faults of running programs

Evaluating a regular tree ends with a value or with one of the faults that the language declares:
a mismatch, a zero divisor, or a number of too many digits. Parsing never gets stuck either, so
these and the syntax errors are all the ways in which running a text can fail.
-/

namespace Scriptlet

theorem Kind.arity?_eq_count?
    (kind : Kind)
    (notConditional : kind ≠ .conditional)
    (unpacks : kind.role.count? ≠ none) :
    kind.arity? = kind.role.count? := by
  cases kind <;>
    first
    | rfl
    | exact absurd rfl unpacks
    | exact absurd rfl notConditional

theorem Kind.eq_of_takes
    {kind : Kind} {count expected : Nat}
    (takes : kind.takes count = true)
    (unpacks : kind.role.count? = some expected) :
    count = expected := by
  obtain ⟨fixed, branches⟩ := Bool.and_eq_true_iff.1 takes
  by_cases isConditional : kind = .conditional
  · subst isConditional
    cases unpacks
    simpa using branches
  · have arity := kind.arity?_eq_count? isConditional (by simp [unpacks])
    rw [arity, unpacks] at fixed
    exact (beq_iff_eq.1 fixed).symm

namespace Node

/-- A payload that can be written makes a text. -/
theorem textValue_within
    {allowed : Fault → Prop} {payload : Option Payload}
    (writable : Payload.isWritable payload = true) :
    (textValue payload).Within allowed := by
  rw [textValue, if_pos writable]
  exact Outcome.within_pure _

/-- The faults of a regular tree are mismatches, zero divisors and those of its numerals. -/
theorem evaluate_within
    {allowed : Fault → Prop} {numeral : String → Prop} {node : Node}
    (mismatch : ∀ demand found, allowed (.mismatch demand found))
    (division : allowed .divisionByZero)
    (modulo : allowed .moduloByZero)
    (numerals :
      ∀ text, numeral text → (numberValue (some (.scalar (.text text)))).Within allowed)
    (regular : Regular numeral node) (context : Context) :
    (evaluate context node).Within allowed := by
  induction regular generalizing context with
  | @branch kind children payload takes writable number _ inductionHypothesis =>
      have within : ∀ context, ∀ child ∈ children, (evaluate context child).Within allowed :=
        fun context child member => inductionHypothesis child member context
      have kept := Outcome.kept_within mismatch
      refine branch_kept kept (within context) ?_ (fun _ => Outcome.within_emit _) ?_
        (fun _ => textValue_within writable) (Outcome.within_fail division)
        (Outcome.within_fail modulo) ?_
      · intro _ _
        exact writeEach_kept kept (within none) fun _ _ _ _ _ => Outcome.within_emit _
      · intro isNumber
        obtain ⟨text, rfl, isNumeral⟩ := number isNumber
        exact numerals text isNumeral
      · intro expected fault unpacks differs
        exact absurd (Kind.eq_of_takes takes unpacks) differs

end Node

/-! ## Running a text -/

/-- The faults that the language declares, for a program of the given tokens. -/
inductive Fault.Declared (tokens : List Token) : Fault → Prop
  | mismatch (demand : Demand) (found : Value) : Declared tokens (.mismatch demand found)
  | divisionByZero : Declared tokens .divisionByZero
  | moduloByZero : Declared tokens .moduloByZero
  | tooManyDigits {token : Token} :
      token ∈ tokens →
      token.terminal = .number →
      Text.Numeral.digitLimit < token.text.length →
      Declared tokens (.badNumeral (.tooManyDigits token.text.length))

/-- The text of a number among the given tokens. -/
def SpelledNumber (tokens : List Token) (text : String) : Prop :=
  ∃ token ∈ tokens, token.terminal = .number ∧ token.lexeme.Fits ∧ token.text = text

/-- A number of a program is read, or it is too long. -/
theorem Node.numberValue_within
    {tokens : List Token} {text : String}
    (spelled : SpelledNumber tokens text) :
    (numberValue (some (.scalar (.text text)))).Within (Fault.Declared tokens) := by
  obtain ⟨token, member, isNumber, fits, rfl⟩ := spelled
  have matched : token.text.toList ∈ Terminal.number.pattern := by
    rw [← isNumber]
    exact fits
  obtain ⟨nonempty, allDigits⟩ := Lexing.digits_of_mem_pattern_number matched
  have read := Text.Numeral.read_of_digits nonempty allDigits
  rw [String.ofList_toList, String.length_toList] at read
  unfold numberValue
  simp only [Payload.plainOf, Payload.plain, Scalar.plain, read]
  by_cases tooLong : Text.Numeral.digitLimit < token.text.length
  · rw [if_pos tooLong]
    exact Outcome.within_fail (.tooManyDigits member isNumber tooLong)
  · rw [if_neg tooLong]
    exact Outcome.within_pure _

theorem Node.regular_unwrapped
    {numeral : String → Prop} {node : Node}
    (regular : Regular numeral node) :
    Regular numeral (Program.unwrapped node) := by
  unfold Program.unwrapped
  split
  · exact regular.children _ (by simp [Node.children])
  · exact regular

/-- Running any text in any context ends in one of the declared ways: with a syntax error, before
anything is evaluated; or no handler refuses its pieces, and evaluation ends with a value or with
a declared fault. -/
theorem Program.run_within_declared (source : String) (context : Context) :
    match Program.run source context with
    | .error error => error ≠ .stuck
    | .ok outcome =>
        ∃ parsed,
          Parsed.ofText source = .ok parsed ∧
            Laid 0 parsed.tokens source.toList ∧
            parsed.derivation.handUp .compact = some [.node (parsed.tree .compact)] ∧
            outcome.Within (Fault.Declared parsed.tokens) := by
  cases parsedText : Parsed.ofText source with
  | error error =>
      have faithful := Parsed.ofText_faithful source
      rw [parsedText] at faithful
      simp only [Program.run, Program.tree, parsedText]
      exact faithful
  | ok parsed =>
      obtain ⟨laid, sameLexemes⟩ := Parsed.laid_of_ofText_eq_ok parsedText
      have fits := Parsed.fits_of_ofText_eq_ok parsedText
      have handed := parsed.derivation.handUp_eq_pieces_lower .compact fits
      have numbers :
          ∀ lexeme ∈ parsed.derivation.lexemes,
            lexeme.1 = .number → SpelledNumber parsed.tokens lexeme.2 := by
        intro lexeme member isNumber
        have lexemeFits := fits lexeme member
        rw [sameLexemes] at member
        obtain ⟨token, tokenMember, rfl⟩ := List.mem_map.1 member
        exact ⟨token, tokenMember, isNumber, lexemeFits, rfl⟩
      have regular : (parsed.tree .compact).Regular (SpelledNumber parsed.tokens) :=
        Derivation.lower_regular parsed.derivation numbers
      have within :
          ((Program.unwrapped (parsed.tree .compact)).evaluate context).Within
            (Fault.Declared parsed.tokens) :=
        Node.evaluate_within .mismatch .divisionByZero .moduloByZero
          (fun _ => Node.numberValue_within) (Node.regular_unwrapped regular) context
      simp only [Program.run, Program.tree, parsedText]
      exact ⟨parsed, rfl, laid, handed, within⟩

end Scriptlet
