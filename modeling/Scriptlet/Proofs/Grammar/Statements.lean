import Mathlib.Data.List.Induction
import Scriptlet.Program
import Scriptlet.Proofs.Grammar.Meaning

/-!
# Programs as lists of statements

The grammar derives the statements of a program by a left-recursive list. A program is the list of
its statements: each list is derived by one program, and lexemes and meanings follow the list.
-/

namespace Scriptlet

abbrev StatementDerivation := Derivation (.nonterminal .statement)

namespace StatementsDerivation

/-- The list of one statement. -/
def one (statement : StatementDerivation) : Derivation (.nonterminal .statements) :=
  .node .statementsOne (.cons statement .nil)

/-- A list of statements with one more at its end. -/
def snoc
    (earlier : Derivation (.nonterminal .statements))
    (statement : StatementDerivation) :
    Derivation (.nonterminal .statements) :=
  .node .statementsMore (.cons earlier (.cons statement .nil))

/-- The list that derives a first statement and those after it. -/
def ofList
    (first : StatementDerivation)
    (others : List StatementDerivation) :
    Derivation (.nonterminal .statements) :=
  others.foldl snoc (one first)

theorem ofList_append_singleton
    (first : StatementDerivation)
    (others : List StatementDerivation)
    (statement : StatementDerivation) :
    ofList first (others ++ [statement]) = snoc (ofList first others) statement := by
  simp [ofList]

theorem cast_cases
    {symbol : Symbol} (derivation : Derivation symbol)
    (isStatements : symbol = .nonterminal .statements) :
    (∃ statement, derivation.cast isStatements = one statement) ∨
      ∃ earlier statement, derivation.cast isStatements = snoc earlier statement := by
  cases derivation with
  | leaf terminal text => cases isStatements
  | node production parts =>
      have lhs : production.lhs = .statements := Symbol.nonterminal.inj isStatements
      cases production
      case statementsOne =>
        cases parts with
        | cons statement rest =>
            cases rest with
            | nil => exact .inl ⟨statement, rfl⟩
      case statementsMore =>
        cases parts with
        | cons earlier rest =>
            cases rest with
            | cons statement rest =>
                cases rest with
                | nil => exact .inr ⟨earlier, statement, rfl⟩
      all_goals exact absurd lhs (by decide)

/-- Every derivation of statements is that of a list. -/
theorem exists_ofList (derivation : Derivation (.nonterminal .statements)) :
    ∃ first others, derivation = ofList first others := by
  rcases cast_cases derivation rfl with ⟨statement, single⟩ | ⟨earlier, statement, longer⟩
  · exact ⟨statement, [], single⟩
  · have longer : derivation = snoc earlier statement := longer
    have smaller : sizeOf earlier < sizeOf derivation := by
      have outer :
          sizeOf (snoc earlier statement) =
            1 + sizeOf Production.statementsMore +
              sizeOf (Derivations.cons earlier (.cons statement .nil)) :=
        Derivation.node.sizeOf_spec ..
      have inner := Derivations.cons.sizeOf_spec earlier (.cons statement .nil)
      rw [longer, outer, inner]
      omega
    obtain ⟨first, others, derived⟩ := exists_ofList earlier
    refine ⟨first, others ++ [statement], ?_⟩
    rw [ofList_append_singleton, ← derived, longer]
termination_by sizeOf derivation

theorem lexemes_ofList
    (first : StatementDerivation)
    (others : List StatementDerivation) :
    (ofList first others).lexemes = (first :: others).flatMap Derivation.lexemes := by
  induction others using List.reverseRecOn with
  | nil => rfl
  | append_singleton others statement inductionHypothesis =>
      rw [ofList_append_singleton, snoc]
      simp [Derivation.lexemes, Derivations.lexemes, inductionHypothesis]

theorem lower_ofList
    (shaping : Shaping)
    (first : StatementDerivation)
    (others : List StatementDerivation) :
    (ofList first others).lower shaping =
      (first :: others).map fun statement => statement.lower shaping := by
  induction others using List.reverseRecOn with
  | nil => rfl
  | append_singleton others statement inductionHypothesis =>
      have lowered :
          (snoc (ofList first others) statement).lower shaping =
            (ofList first others).lower shaping ++ [statement.lower shaping] := rfl
      rw [ofList_append_singleton, lowered, inductionHypothesis]
      simp

end StatementsDerivation

namespace ProgramDerivation

/-- The program with the given statements. -/
def ofStatements : List StatementDerivation → ProgramDerivation
  | [] => .node .programEmpty .nil
  | first :: others => .node .program (.cons (StatementsDerivation.ofList first others) .nil)

theorem exists_ofStatements (program : ProgramDerivation) :
    ∃ statements, program = ofStatements statements := by
  rcases ProgramDerivation.cases program with ⟨derived, rfl⟩ | rfl
  · obtain ⟨first, others, rfl⟩ := StatementsDerivation.exists_ofList derived
    exact ⟨first :: others, rfl⟩
  · exact ⟨[], rfl⟩

theorem lexemes_ofStatements (statements : List StatementDerivation) :
    (ofStatements statements).lexemes = statements.flatMap Derivation.lexemes := by
  cases statements with
  | nil => rfl
  | cons first others =>
      simp [ofStatements, Derivation.lexemes, Derivations.lexemes,
        StatementsDerivation.lexemes_ofList]

theorem lower_ofStatements (shaping : Shaping) (statements : List StatementDerivation) :
    (ofStatements statements).lower shaping =
      Node.plain .body (statements.map fun statement => statement.lower shaping) := by
  cases statements with
  | nil => rfl
  | cons first others =>
      have lowered :
          (ofStatements (first :: others)).lower shaping =
            Node.plain .body ((StatementsDerivation.ofList first others).lower shaping) := rfl
      rw [lowered, StatementsDerivation.lower_ofList]

end ProgramDerivation

namespace Program

theorem tree_of_ofText_eq_ok
    {source : String} {tokens : List Token} {statements : List StatementDerivation}
    (parsed : Parsed.ofText source = .ok ⟨tokens, ProgramDerivation.ofStatements statements⟩) :
    Program.tree source =
      .ok (Node.plain .body (statements.map fun statement => statement.lower .compact)) := by
  rw [Program.tree, parsed]
  dsimp only
  rw [Parsed.tree, ProgramDerivation.lower_ofStatements]

theorem exists_statements_of_tree_eq_ok
    {source : String} {tree : Node}
    (accepted : Program.tree source = .ok tree) :
    ∃ tokens statements,
      Parsed.ofText source = .ok ⟨tokens, ProgramDerivation.ofStatements statements⟩ ∧
        tree = Node.plain .body (statements.map fun statement => statement.lower .compact) := by
  cases parsed : Parsed.ofText source with
  | error error =>
      rw [Program.tree, parsed] at accepted
      cases accepted
  | ok result =>
      obtain ⟨tokens, derivation⟩ := result
      obtain ⟨statements, rfl⟩ := ProgramDerivation.exists_ofStatements derivation
      rw [tree_of_ofText_eq_ok parsed] at accepted
      cases accepted
      exact ⟨tokens, statements, rfl, rfl⟩

theorem run_of_tree_eq_ok
    {source : String} {tree : Node}
    (accepted : Program.tree source = .ok tree)
    (context : Context) :
    Program.run source context = .ok ((unwrapped tree).evaluate context) := by
  rw [Program.run, accepted]

end Program

end Scriptlet
