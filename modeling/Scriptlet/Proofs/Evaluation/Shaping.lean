import Scriptlet.Proofs.Evaluation.Congruence
import Scriptlet.Proofs.Evaluation.Equations
import Scriptlet.Proofs.Parsing.Soundness

/-!
# Shaping keeps the meaning

The compact shaping collapses chains of an operator into one node and marks conditions and
vectors by kinds of their own. None of this can be noticed: every program evaluates as it does
in the plain shaping, in which each operator has a node of its own and nothing is marked.
-/

namespace Scriptlet

theorem Integer.wrap_wrap_add (number other : Int) :
    Integer.wrap (Integer.wrap number + other) = Integer.wrap (number + other) := by
  simp [Integer.wrap]

namespace Node

/-! ## Chains -/

theorem addUp_append_singleton (context : Context) (nodes : List Node) (last : Node) :
    addUp context (nodes ++ [last]) = do
      let total ← addUp context nodes
      let number ← (← evaluate context last).requireInt
      return total + number := by
  induction nodes with
  | nil => simp only [List.nil_append, addUp, pure_bind, Int.add_zero, Int.zero_add]
  | cons first rest inductionHypothesis =>
      simp only [List.cons_append, addUp, inductionHypothesis, bind_assoc, pure_bind,
        Int.add_assoc]

theorem holdsAny_append (context : Context) (nodes more : List Node) :
    holdsAny context (nodes ++ more) =
      holdsAny context nodes >>= fun truth =>
        if truth then pure true else holdsAny context more := by
  induction nodes with
  | nil => simp [holdsAny]
  | cons first rest inductionHypothesis =>
      simp only [List.cons_append, holdsAny, inductionHypothesis, bind_assoc]
      refine bind_congr fun result => bind_congr fun truth => ?_
      cases truth with
      | true => simp
      | false => simp

theorem holdsAll_append (context : Context) (nodes more : List Node) :
    holdsAll context (nodes ++ more) =
      holdsAll context nodes >>= fun truth =>
        if truth then holdsAll context more else pure false := by
  induction nodes with
  | nil => simp [holdsAll]
  | cons first rest inductionHypothesis =>
      simp only [List.cons_append, holdsAll, inductionHypothesis, bind_assoc]
      refine bind_congr fun result => bind_congr fun truth => ?_
      cases truth with
      | true => simp
      | false => simp

/-- A sum whose first operand is a sum adds up the operands of both. -/
theorem evaluate_nested_sum
    (context : Context) (children : List Node) (payload : Option Payload) (last : Node) :
    evaluate context (plain .sum (children ++ [last])) =
      evaluate context (plain .sum [.branch (.kind .sum) children payload, last]) := by
  unfold plain
  simp only [evaluate_sum, addUp_append_singleton, addUp, bind_assoc, pure_bind, requireInt_int,
    Integer.wrap_wrap_add, Int.add_zero]

theorem evaluate_nested_disjunction
    (context : Context) (children : List Node) (payload : Option Payload) (last : Node) :
    evaluate context (plain .disjunction (children ++ [last])) =
      evaluate context
        (plain .disjunction [.branch (.kind .disjunction) children payload, last]) := by
  have outer := holdsAny_append context children [last]
  unfold plain
  simp only [evaluate_disjunction, outer]
  simp only [holdsAny, evaluate_disjunction, bind_assoc, pure_bind, requireBool_bool]

theorem evaluate_nested_conjunction
    (context : Context) (children : List Node) (payload : Option Payload) (last : Node) :
    evaluate context (plain .conjunction (children ++ [last])) =
      evaluate context
        (plain .conjunction [.branch (.kind .conjunction) children payload, last]) := by
  have outer := holdsAll_append context children [last]
  unfold plain
  simp only [evaluate_conjunction, outer]
  simp only [holdsAll, evaluate_conjunction, bind_assoc, pure_bind, requireBool_bool]

/-! ## What the two shapings build -/

/-- A kind whose nodes may take the place of a first operand of the same kind. -/
def Collapses (kind : Kind) : Prop :=
  ∀ (context : Context) (children : List Node) (payload : Option Payload) (last : Node),
    evaluate context (plain kind (children ++ [last])) =
      evaluate context (plain kind [.branch (.kind kind) children payload, last])

theorem interchangeable_chainOnto
    {kind : Kind} (collapses : Collapses kind) (left right : Node) :
    Interchangeable (chainOnto kind left right) (plain kind [left, right]) := by
  unfold chainOnto
  split
  · next sameKind =>
      cases left with
      | stray content => cases sameKind
      | branch label children payload =>
          cases label with
          | other name => cases sameKind
          | kind found =>
              cases sameKind
              exact ⟨fun context => collapses context children payload right, fun _ _ => Iff.rfl⟩
  · exact .refl _

theorem interchangeable_asCondition (node : Node) : Interchangeable node.asCondition node := by
  unfold asCondition
  split
  · exact .relabel rfl (by decide)
  · exact .relabel rfl (by decide)
  · exact .refl _

theorem interchangeable_asVector (node : Node) : Interchangeable node.asVector node := by
  unfold asVector
  split
  · exact .relabel rfl (by decide)
  · exact .refl _

namespace Interchangeable

variable {left right plainLeft plainRight : Node}

theorem condition
    (same : Interchangeable left right) :
    Interchangeable (Shaping.compact.condition left) (Shaping.plain.condition right) :=
  (interchangeable_asCondition left).trans same

theorem vector
    (same : Interchangeable left right) :
    Interchangeable (Shaping.compact.vector left) (Shaping.plain.vector right) :=
  (interchangeable_asVector left).trans same

theorem one
    {kind : Kind} {payload : Option Payload}
    (first : Interchangeable left plainLeft) :
    Interchangeable (.branch (.kind kind) [left] payload)
      (.branch (.kind kind) [plainLeft] payload) :=
  .branch (.cons first .nil)

theorem two
    {kind : Kind} {payload : Option Payload}
    (first : Interchangeable left plainLeft)
    (second : Interchangeable right plainRight) :
    Interchangeable (.branch (.kind kind) [left, right] payload)
      (.branch (.kind kind) [plainLeft, plainRight] payload) :=
  .branch (.cons first (.cons second .nil))

theorem three
    {kind : Kind} {payload : Option Payload} {middle plainMiddle : Node}
    (first : Interchangeable left plainLeft)
    (second : Interchangeable middle plainMiddle)
    (third : Interchangeable right plainRight) :
    Interchangeable (.branch (.kind kind) [left, middle, right] payload)
      (.branch (.kind kind) [plainLeft, plainMiddle, plainRight] payload) :=
  .branch (.cons first (.cons second (.cons third .nil)))

theorem chain
    {kind : Kind} (collapses : Collapses kind)
    (first : Interchangeable left plainLeft)
    (second : Interchangeable right plainRight) :
    Interchangeable (Shaping.compact.chain kind left right)
      (Shaping.plain.chain kind plainLeft plainRight) :=
  (interchangeable_chainOnto collapses left right).trans (two first second)

theorem compareWith
    (operator : String)
    (first : Interchangeable left plainLeft)
    (second : Interchangeable right plainRight) :
    Interchangeable (compareWith left operator right)
      (compareWith plainLeft operator plainRight) := by
  unfold Node.compareWith
  split
  · exact three first (.refl _) second
  · exact three first (.refl _) second

end Interchangeable

theorem forall₂_map_condition
    {compacts plains : List Node}
    (same : List.Forall₂ Interchangeable compacts plains) :
    List.Forall₂ Interchangeable (compacts.map Shaping.compact.condition)
      (plains.map Shaping.plain.condition) := by
  induction same with
  | nil => exact .nil
  | cons first _ inductionHypothesis =>
      exact .cons first.condition inductionHypothesis

end Node

/-! ## Programs -/

open Node in
/-- The actions of a production in the two shapings build interchangeable nodes from
interchangeable ones. -/
theorem Production.action_interchangeable
    (production : Production) (compacts plains : Meanings production.rhs)
    (same : Meanings.Related (Symbol.Paired Interchangeable) production.rhs compacts plains) :
    Symbol.Paired Interchangeable (.nonterminal production.lhs)
      (production.action .compact compacts) (production.action .plain plains) := by
  cases production
  case statementOfPrint | statementOfPrintln | statementOfVar | statementOfFn | statementOfAssign |
      statementOfIf | statementOfWhile | statementOfFor | statementOfReturn | statementOfExpr |
      elseBlock | elseIf | exprOfOr | orOfAnd | andOfNot | notOfCmp | cmpOfSum | sumOfTerm |
      termOfUnary | unaryOfAtom =>
    exact same.1
  case atomParens => exact same.2.1
  case program => exact .branch same.1
  case blockStatements | atomVector => exact .branch same.2.1
  case printArgs | printlnArgs => exact .branch same.2.2.1
  case programEmpty | printEmpty | printlnEmpty | returnEmpty | blockEmpty | atomTrue |
      atomFalse | atomVectorEmpty =>
    exact .refl _
  case varManyInit =>
    obtain ⟨_, name, names, _, initial, _⟩ := compacts
    obtain ⟨_, _, _, _, _, _⟩ := plains
    obtain ⟨_, rfl, rfl, _, sameInitial, _⟩ := same
    exact .two (.refl _) sameInitial
  case varOneInit =>
    obtain ⟨_, name, _, initial, _⟩ := compacts
    obtain ⟨_, _, _, _, _⟩ := plains
    obtain ⟨_, rfl, _, sameInitial, _⟩ := same
    exact .two (.refl _) sameInitial
  case varMany =>
    obtain ⟨_, name, names, _⟩ := compacts
    obtain ⟨_, _, _, _⟩ := plains
    obtain ⟨_, rfl, rfl, _⟩ := same
    exact .refl _
  case varOne =>
    obtain ⟨_, name, _⟩ := compacts
    obtain ⟨_, _, _⟩ := plains
    obtain ⟨_, rfl, _⟩ := same
    exact .refl _
  case fnParams =>
    obtain ⟨_, name, _, params, _, body, _⟩ := compacts
    obtain ⟨_, _, _, _, _, _, _⟩ := plains
    obtain ⟨_, rfl, _, sameParams, _, sameBody, _⟩ := same
    exact .two (.branch sameParams) sameBody
  case fnNoParams =>
    obtain ⟨_, name, _, _, body, _⟩ := compacts
    obtain ⟨_, _, _, _, _, _⟩ := plains
    obtain ⟨_, rfl, _, _, sameBody, _⟩ := same
    exact .two (.refl _) sameBody
  case paramsMany =>
    obtain ⟨name, names, _⟩ := compacts
    obtain ⟨_, _, _⟩ := plains
    obtain ⟨rfl, rfl, _⟩ := same
    exact List.forall₂_same.2 fun node _ => .refl node
  case paramsOne =>
    obtain ⟨name, _⟩ := compacts
    obtain ⟨_, _⟩ := plains
    obtain ⟨rfl, _⟩ := same
    exact .cons (.refl _) .nil
  case assign =>
    obtain ⟨name, _, expr, _⟩ := compacts
    obtain ⟨_, _, _, _⟩ := plains
    obtain ⟨rfl, _, sameExpr, _⟩ := same
    exact .two (.refl _) sameExpr
  case ifElse =>
    obtain ⟨_, _, sameCondition, _, sameBody, _, sameOther, _⟩ := same
    exact .three sameCondition.condition sameBody sameOther
  case ifOnly =>
    obtain ⟨_, _, sameCondition, _, sameBody, _⟩ := same
    exact .three sameCondition.condition sameBody (.refl _)
  case whileMany =>
    obtain ⟨_, _, sameFirst, sameFurther, _, sameBody, _⟩ := same
    have sameConditions :=
      forall₂_map_condition (List.Forall₂.cons sameFirst sameFurther)
    exact .two (.branch sameConditions) sameBody
  case whileOne =>
    obtain ⟨_, _, sameCondition, _, sameBody, _⟩ := same
    exact .two sameCondition.condition sameBody
  case forIn =>
    obtain ⟨_, name, _, source, body, _⟩ := compacts
    obtain ⟨_, _, _, _, _, _⟩ := plains
    obtain ⟨_, rfl, _, sameSource, sameBody, _⟩ := same
    exact .three (.refl _) sameSource.vector sameBody
  case returnExpr => exact .one same.2.1
  case argsMany => exact .cons same.1 same.2.1
  case argsOne | statementsOne => exact .cons same.1 .nil
  case moreExprsOne => exact .cons same.2.1 .nil
  case statementsMore =>
    obtain ⟨sameEarlier, sameLast, _⟩ := same
    exact List.rel_append sameEarlier (.cons sameLast .nil)
  case moreExprsMore =>
    obtain ⟨sameEarlier, _, sameLast, _⟩ := same
    exact List.rel_append sameEarlier (.cons sameLast .nil)
  case orChain =>
    obtain ⟨sameLeft, _, sameRight, _⟩ := same
    exact .chain evaluate_nested_disjunction sameLeft.condition sameRight.condition
  case andChain =>
    obtain ⟨sameLeft, _, sameRight, _⟩ := same
    exact .chain evaluate_nested_conjunction sameLeft.condition sameRight.condition
  case notBang =>
    obtain ⟨_, sameOperand, _⟩ := same
    exact .one sameOperand.condition
  case cmpRelation =>
    obtain ⟨left, operator, right, _⟩ := compacts
    obtain ⟨_, _, _, _⟩ := plains
    obtain ⟨sameLeft, rfl, sameRight, _⟩ := same
    exact .compareWith operator sameLeft sameRight
  case cmpIn =>
    obtain ⟨sameLeft, _, sameRight, _⟩ := same
    exact .two sameLeft sameRight.vector
  case cmpNotIn =>
    obtain ⟨sameLeft, _, _, sameRight, _⟩ := same
    exact .two sameLeft sameRight.vector
  case sumPlus =>
    obtain ⟨sameLeft, _, sameRight, _⟩ := same
    exact .chain evaluate_nested_sum sameLeft sameRight
  case sumMinus =>
    obtain ⟨sameLeft, _, sameRight, _⟩ := same
    exact .chain evaluate_nested_sum sameLeft (.one sameRight)
  case termTimes | termDivide | termModulo =>
    obtain ⟨sameLeft, _, sameRight, _⟩ := same
    exact .two sameLeft sameRight
  case unaryMinus | unaryPlus => exact .one same.2.1
  case atomNumber | atomString | atomName =>
    obtain ⟨text, _⟩ := compacts
    obtain ⟨_, _⟩ := plains
    obtain ⟨rfl, _⟩ := same
    exact .refl _
  case atomCall =>
    obtain ⟨name, _, args, _⟩ := compacts
    obtain ⟨_, _, _, _⟩ := plains
    obtain ⟨rfl, _, sameArgs, _⟩ := same
    exact .one (.branch sameArgs)
  case atomCallEmpty =>
    obtain ⟨name, _⟩ := compacts
    obtain ⟨_, _⟩ := plains
    obtain ⟨rfl, _⟩ := same
    exact .refl _
  case moreNamesOne =>
    obtain ⟨_, name, _⟩ := compacts
    obtain ⟨_, _, _⟩ := plains
    obtain ⟨_, rfl, _⟩ := same
    rfl
  case moreNamesMore =>
    obtain ⟨names, _, name, _⟩ := compacts
    obtain ⟨_, _, _, _⟩ := plains
    obtain ⟨rfl, _, rfl, _⟩ := same
    rfl

open Node in
theorem Program.unwrapped_interchangeable
    {compacts plains : List Node}
    (same : List.Forall₂ Interchangeable compacts plains) :
    Interchangeable (Program.unwrapped (plain .body compacts))
      (Program.unwrapped (plain .body plains)) := by
  cases same with
  | nil => exact .refl _
  | cons first rest =>
      cases rest with
      | nil => exact first
      | cons second rest => exact .branch (.cons first (.cons second rest))

/-- The two trees of a program, unwrapped for evaluation, are interchangeable. -/
theorem Derivation.unwrapped_lower_interchangeable (derivation : ProgramDerivation) :
    Node.Interchangeable (Program.unwrapped (derivation.lower .compact))
      (Program.unwrapped (derivation.lower .plain)) := by
  rcases ProgramDerivation.cases derivation with ⟨statements, rfl⟩ | rfl
  · have allTrue : ∀ lexeme ∈ statements.lexemes, (fun _ : Lexeme => True) lexeme :=
      fun _ _ => trivial
    have same :
        Symbol.Paired Node.Interchangeable _ (statements.lower .compact)
          (statements.lower .plain) :=
      statements.lower_related (fun _ _ _ => rfl) Production.action_interchangeable allTrue
    exact Program.unwrapped_interchangeable same
  · exact .refl _

/-- Running a text gives what evaluating its plain tree gives: the same value or fault, and the
same output. The plain tree is the one that the handlers put together in the plain shaping. -/
theorem Program.run_eq_evaluate_plain (source : String) (context : Context) :
    match Parsed.ofText source with
    | .error error => Program.run source context = .error error
    | .ok parsed =>
        ∃ tree,
          parsed.derivation.handUp .plain = some [.node tree] ∧
            Program.run source context = .ok ((Program.unwrapped tree).evaluate context) := by
  cases parsedText : Parsed.ofText source with
  | error error => simp only [Program.run, Program.tree, parsedText]
  | ok parsed =>
      have fits := Parsed.fits_of_ofText_eq_ok parsedText
      have handed := parsed.derivation.handUp_eq_pieces_lower .plain fits
      have same := Derivation.unwrapped_lower_interchangeable parsed.derivation
      refine ⟨parsed.derivation.lower .plain, handed, ?_⟩
      simp only [Program.run, Program.tree, parsedText]
      exact congrArg Except.ok (same.evaluates context)

end Scriptlet
