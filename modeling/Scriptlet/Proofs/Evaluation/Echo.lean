import Scriptlet.Proofs.Evaluation.Equations
import Scriptlet.Proofs.Evaluation.Values
import Scriptlet.Proofs.Lexing.Spacing
import Scriptlet.Proofs.Parsing.Reading
import Scriptlet.Proofs.Text.Decimal

/-!
# Echoed values

The echo of a value, with a semicolon behind it, is a program for that value. A program without
context returns only numbers in range, truth values and texts that a literal can hold, and each of
these is echoed as a literal, or as a literal with a minus sign. The literal of the least number
wraps, and so does its negation, which leads back to the least number.
-/

namespace Scriptlet

/-! ## Operands as programs -/

abbrev OperandDerivation := Derivation (.nonterminal .unary)

namespace OperandDerivation

def ofAtom (atom : Derivation (.nonterminal .atom)) : OperandDerivation :=
  .node .unaryOfAtom (.cons atom .nil)

def ofNumber (text : String) : OperandDerivation :=
  ofAtom (.node .atomNumber (.cons (.leaf .number text) .nil))

def ofText (text : String) : OperandDerivation :=
  ofAtom (.node .atomString (.cons (.leaf .string text) .nil))

def ofTruth : Bool → OperandDerivation
  | true => ofAtom (.node .atomTrue (.cons (.leaf (.keyword .trueWord) "true") .nil))
  | false => ofAtom (.node .atomFalse (.cons (.leaf (.keyword .falseWord) "false") .nil))

def negated (operand : OperandDerivation) : OperandDerivation :=
  .node .unaryMinus (.cons (.leaf (.mark .minus) "-") (.cons operand .nil))

/-- The statement that consists of an operand, through all layers of expressions. -/
def asStatement (operand : OperandDerivation) : StatementDerivation :=
  let term : Derivation (.nonterminal .term) := .node .termOfUnary (.cons operand .nil)
  let sum : Derivation (.nonterminal .sumExpr) := .node .sumOfTerm (.cons term .nil)
  let comparison : Derivation (.nonterminal .cmpExpr) := .node .cmpOfSum (.cons sum .nil)
  let negation : Derivation (.nonterminal .notExpr) := .node .notOfCmp (.cons comparison .nil)
  let conjunction : Derivation (.nonterminal .andExpr) := .node .andOfNot (.cons negation .nil)
  let disjunction : Derivation (.nonterminal .orExpr) := .node .orOfAnd (.cons conjunction .nil)
  let expr : Derivation (.nonterminal .expr) := .node .exprOfOr (.cons disjunction .nil)
  .node .statementOfExpr (.cons expr (.cons (.leaf (.mark .semicolon) ";") .nil))

end OperandDerivation

/-- The state behind the semicolon of a statement. -/
def Automaton.afterSemicolon : State := 41

namespace OperandDerivation

theorem lexemes_asStatement (operand : OperandDerivation) :
    operand.asStatement.lexemes = operand.lexemes ++ [(.mark .semicolon, ";")] := by
  simp [asStatement, Derivation.lexemes, Derivations.lexemes]

theorem trail_asStatement (operand : OperandDerivation) :
    operand.asStatement.trail Automaton.start =
      operand.trail Automaton.start ++ [Automaton.afterSemicolon] := by
  have ended :
      Automaton.enter (Automaton.enter Automaton.start (.nonterminal .expr))
          (.terminal (.mark .semicolon)) =
        Automaton.afterSemicolon := rfl
  simp [asStatement, Derivation.trail, Derivations.trail, ended]

/-- A text that is read as an operand and a semicolon. -/
def ReadFrom (operand : OperandDerivation) (text : List Char) : Prop :=
  Reads (Automaton.start :: (operand.trail Automaton.start ++ [Automaton.afterSemicolon]))
    (operand.lexemes ++ [(.mark .semicolon, ";")]) text

/-- Such a text has the value of the operand. -/
theorem run_of_readFrom
    {operand : OperandDerivation} {source : String}
    (reads : operand.ReadFrom source.toList)
    (context : Context) :
    Program.run source context = .ok (Node.evaluate context (operand.lower .compact)) := by
  have trail := ProgramDerivation.trail_ofStatements [operand.asStatement]
  have lexemes := ProgramDerivation.lexemes_ofStatements [operand.asStatement]
  rw [List.flatMap_singleton, trail_asStatement] at trail
  rw [List.flatMap_singleton, lexemes_asStatement] at lexemes
  rw [ReadFrom, ← trail, ← lexemes] at reads
  obtain ⟨tokens, parsed⟩ := Parsed.exists_ofText_eq_ok_iff_reads.2 reads
  exact Program.run_of_tree_eq_ok (Program.tree_of_ofText_eq_ok parsed) context

end OperandDerivation

/-! ## Literals before a semicolon -/

/-- A lexeme that starts with neither a space nor a slash is read where it stands. -/
theorem Reads.next_lexeme
    {state : Automaton.State} {states : List Automaton.State} {terminal : Terminal}
    {lexemes : List Lexeme} {first : Char} {others rest : List Char}
    (solid : Lexing.isSpace first = false)
    (notSlash : first ≠ '/')
    (scanned :
      Lexing.scan (Automaton.allows state) (first :: others ++ rest) =
        some (terminal, first :: others))
    (reads : Reads states lexemes rest) :
    Reads (state :: states) ((terminal, String.ofList (first :: others)) :: lexemes)
      (first :: others ++ rest) := by
  have noGap : Lexing.afterGap (first :: others ++ rest) = first :: others ++ rest := by
    simp [Lexing.afterGap, Lexing.gap, Lexing.gapFrom, solid, notSlash]
  apply Reads.next
  · rw [noGap, scanned, String.toList_ofList]
  · rw [noGap, String.toList_ofList, List.drop_left]
    exact reads

/-- Behind a literal, in one of the four states for them, a semicolon ends the statement. -/
theorem reads_semicolon
    {state : Automaton.State}
    (behindLiteral : state ∈ [34, 35, 36, 37]) :
    Reads [state, Automaton.afterSemicolon] [(.mark .semicolon, ";")] [';'] := by
  simp only [List.mem_cons, List.not_mem_nil, or_false] at behindLiteral
  rcases behindLiteral with rfl | rfl | rfl | rfl <;>
    exact .next (by decide) (.last (by decide))

theorem reads_repr
    {state : Automaton.State}
    (granted : Automaton.allows state .number = true)
    (number : Nat) :
    Reads [state, 34, Automaton.afterSemicolon]
      [(.number, number.repr), (.mark .semicolon, ";")] (number.repr.toList ++ [';']) := by
  have ascii : ∀ c ∈ Nat.toDigits 10 number, c.isDigit = true :=
    fun c member => Nat.isDigit_of_mem_toDigits (by decide) (by decide) member
  obtain ⟨first, others, spelled⟩ :=
    List.exists_cons_of_ne_nil (Nat.toDigits_ne_nil (n := number) (b := 10))
  have lexeme : number.repr = String.ofList (first :: others) := by
    rw [← spelled, ← Nat.toList_repr, String.ofList_toList]
  rw [spelled] at ascii
  obtain ⟨firstDigit, otherDigits⟩ := List.forall_mem_cons.1 ascii
  have solid : Lexing.isSpace first = false := by
    refine Bool.eq_false_iff.2 fun space => ?_
    rw [Lexing.isDigit_eq_false_of_isSpace space] at firstDigit
    cases firstDigit
  have notSlash : first ≠ '/' := by
    rintro rfl
    exact absurd firstDigit (by decide)
  have read :
      Lexing.lexeme? .number (first :: others ++ [';']) = some (first :: others) := by
    simp [Lexing.lexeme?, firstDigit, List.takeWhile_append_of_pos otherDigits]
  have silent :
      ∀ earlier ∈ [Terminal.ident], Automaton.allows state earlier = true →
        Lexing.lexeme? earlier (first :: others ++ [';']) = none := by
    simp [Lexing.lexeme?, Lexing.isNameStart_eq_false_of_isDigit firstDigit]
  have scanned := Lexing.scan_eq_some_of_before [.ident] _ rfl silent granted read
  rw [lexeme, String.toList_ofList]
  exact .next_lexeme solid notSlash scanned (reads_semicolon (by decide))

theorem reads_minus_repr (number : Nat) :
    Reads [Automaton.start, 32, 34, Automaton.afterSemicolon]
      [(.mark .minus, "-"), (.number, number.repr), (.mark .semicolon, ";")]
      ('-' :: (number.repr.toList ++ [';'])) := by
  have scanned :
      Lexing.scan (Automaton.allows Automaton.start) (['-'] ++ (number.repr.toList ++ [';'])) =
        some (.mark .minus, ['-']) := rfl
  have signless : Automaton.allows 32 .number = true := by decide
  exact .next_lexeme (by decide) (by decide) scanned (reads_repr signless number)

theorem reads_quoted
    {content : List Char}
    (textChars : ∀ c ∈ content, Lexing.isTextChar c = true) :
    Reads [Automaton.start, 35, Automaton.afterSemicolon]
      [(.string, String.ofList ('"' :: (content ++ ['"']))), (.mark .semicolon, ";")]
      ('"' :: (content ++ ['"']) ++ [';']) := by
  have quote : Lexing.isTextChar '"' = false := by decide
  have read :
      Lexing.lexeme? .string ('"' :: (content ++ ['"']) ++ [';']) =
        some ('"' :: (content ++ ['"'])) := by
    simp [Lexing.lexeme?, List.takeWhile_append_of_pos textChars,
      List.dropWhile_append_of_pos textChars, quote]
  have silent :
      ∀ earlier ∈ [Terminal.ident, .number], Automaton.allows Automaton.start earlier = true →
        Lexing.lexeme? earlier ('"' :: (content ++ ['"']) ++ [';']) = none := by
    simp [Lexing.lexeme?, Lexing.isNameStart]
  have scanned :=
    Lexing.scan_eq_some_of_before [.ident, .number] _ rfl silent (by decide) read
  exact .next_lexeme (by decide) (by decide) scanned (reads_semicolon (by simp))

/-! ## Programs of a literal -/

namespace Program

theorem run_repr (number : Nat) (context : Context) :
    Program.run (number.repr ++ ";") context =
      .ok (Node.numberValue (some (.scalar (.text number.repr)))) := by
  have reads :
      (OperandDerivation.ofNumber number.repr).ReadFrom (number.repr ++ ";").toList := by
    rw [String.toList_append]
    exact reads_repr (by decide) number
  rw [OperandDerivation.run_of_readFrom reads context]
  exact congrArg _ (Node.evaluate_number context _ _)

theorem run_minus_repr (number : Nat) (context : Context) :
    Program.run ("-" ++ number.repr ++ ";") context =
      .ok (do
        let operand ← (← Node.numberValue (some (.scalar (.text number.repr)))).requireInt
        return .int (Integer.wrap (-operand))) := by
  have spelled :
      ("-" ++ number.repr ++ ";").toList = '-' :: (number.repr.toList ++ [';']) := by
    simp
  have reads :
      (OperandDerivation.ofNumber number.repr).negated.ReadFrom
        ("-" ++ number.repr ++ ";").toList := by
    rw [spelled]
    exact reads_minus_repr number
  have evaluated := Node.evaluate_neg context none (Node.named .number number.repr)
  rw [Node.named, Node.evaluate_number] at evaluated
  rw [OperandDerivation.run_of_readFrom reads context]
  exact congrArg _ evaluated

theorem run_quoted
    {content : String}
    (textChars : ∀ c ∈ content.toList, Lexing.isTextChar c = true)
    (context : Context) :
    Program.run ("\"" ++ content ++ "\"" ++ ";") context = .ok (.value (.text content)) := by
  have spelled :
      ("\"" ++ content ++ "\"" ++ ";").toList =
        '"' :: (content.toList ++ ['"']) ++ [';'] := by
    simp
  have reads :
      (OperandDerivation.ofText (String.ofList ('"' :: (content.toList ++ ['"'])))).ReadFrom
        ("\"" ++ content ++ "\"" ++ ";").toList := by
    rw [spelled]
    exact reads_quoted textChars
  have evaluated :=
    Node.evaluate_string context []
      (some (.scalar (.text (String.ofList ('"' :: (content.toList ++ ['"']))))))
  rw [Node.textValue_quoted, String.ofList_toList] at evaluated
  rw [OperandDerivation.run_of_readFrom reads context]
  exact congrArg _ evaluated

theorem run_truth (truth : Bool) (context : Context) :
    Program.run (Value.truthText truth ++ ";") context = .ok (.value (.bool truth)) := by
  have reads :
      (OperandDerivation.ofTruth truth).ReadFrom (Value.truthText truth ++ ";").toList := by
    cases truth <;> exact .next (by decide) (reads_semicolon (by decide))
  rw [OperandDerivation.run_of_readFrom reads context]
  cases truth with
  | true => exact congrArg _ (Node.evaluate_trueLiteral context [] none)
  | false => exact congrArg _ (Node.evaluate_falseLiteral context [] none)

/-! ## Echoes read back -/

theorem numberValue_repr
    {number : Nat}
    (bounded : number ≤ 2147483648) :
    Node.numberValue (some (.scalar (.text number.repr))) =
      pure (.int (Integer.wrap number)) := by
  have short : number.repr.length ≤ Text.Numeral.digitLimit := by
    have digits : number.repr.length ≤ 10 := (Nat.length_repr_le_iff (by decide)).2 (by omega)
    exact digits.trans (by decide)
  have read := Text.Numeral.read_of_denotes (Text.Numeral.denotes_repr short)
  simp only [Node.numberValue, Payload.plainOf, Payload.plain, Scalar.plain, read]
  rfl

theorem run_echo_int
    {number : Int}
    (lower : Integer.least ≤ number)
    (upper : number ≤ Integer.greatest)
    (context : Context) :
    Program.run (toString number ++ ";") context = .ok (.value (.int number)) := by
  have wraps : Integer.wrap number = number := Integer.wrap_eq_self lower upper
  unfold Integer.least at lower
  unfold Integer.greatest at upper
  rw [Int.toString_eq_repr, Int.repr_eq_if]
  by_cases nonnegative : 0 ≤ number
  · have whole : (number.toNat : Int) = number := Int.toNat_of_nonneg nonnegative
    have bounded : number.toNat ≤ 2147483648 := by omega
    rw [if_pos nonnegative, run_repr, numberValue_repr bounded, whole, wraps]
    rfl
  · have whole : ((-number).toNat : Int) = -number := Int.toNat_of_nonneg (by omega)
    have bounded : (-number).toNat ≤ 2147483648 := by omega
    -- The literal of the least number wraps to that number, and its negation wraps back to it.
    have negated : Integer.wrap (-(Integer.wrap (-number))) = number := by
      calc
        Integer.wrap (-(Integer.wrap (-number)))
        _ = Integer.wrap (- -number) := Int.bmod_neg_bmod
        _ = number := by rw [Int.neg_neg, wraps]
    rw [if_neg nonnegative, run_minus_repr, numberValue_repr bounded, whole, pure_bind,
      Node.requireInt_int, pure_bind, negated]
    rfl

/-- The value that a program without context returns is read back from its echo, in any context
and without output. -/
theorem run_echo
    {source : String} {outcome : Outcome Value} {value : Value}
    (ran : Program.run source none = .ok outcome)
    (returned : outcome.result = .ok value)
    (present : value.isAbsent = false)
    (context : Context) :
    Program.run (value.echo ++ ";") context = .ok (.value value) := by
  have computed := computed_of_run ran returned
  cases value with
  | null => cases present
  | int number => exact run_echo_int computed.1 computed.2 context
  | bool truth => exact run_truth truth context
  | text content => exact run_quoted computed context
  | foreign scalar => exact computed.elim

/-- A sum that overflows to the least number. -/
theorem run_echo_least :
    ∃ outcome,
      Program.run "2147483647 + 1;" none = .ok outcome ∧
        outcome.result = .ok (.int (-2147483648)) ∧
        Program.run "-2147483648;" none = .ok (.value (.int (-2147483648))) := by
  have overflows :
      ((Program.run "2147483647 + 1;" none).toOption.bind fun outcome =>
        outcome.result.toOption) = some (.int (-2147483648)) := by
    decide +kernel
  cases ran : Program.run "2147483647 + 1;" none with
  | error error =>
      rw [ran] at overflows
      cases overflows
  | ok outcome =>
      rw [ran] at overflows
      cases returned : outcome.result with
      | error fault =>
          simp [Except.toOption, returned] at overflows
      | ok value =>
          have isLeast : value = .int (-2147483648) := by
            simpa [Except.toOption, returned] using overflows
          subst isLeast
          exact ⟨outcome, rfl, returned, run_echo ran returned rfl none⟩

end Program

end Scriptlet
