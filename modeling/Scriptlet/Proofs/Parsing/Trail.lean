import Scriptlet.Proofs.Automaton.Items
import Scriptlet.Proofs.Grammar.Statements

/-!
# Trails

The trail of a derivation: the states that the automaton enters while it reads the lexemes of the
derivation, from a given state on. The trail of a program is made of those of its statements, and
each statement has the same trail wherever it stands among them.
-/

namespace Scriptlet

/-- The state after a symbol; where there is none, the first one. -/
def Automaton.enter (state : State) (symbol : Symbol) : State :=
  (next? state symbol).getD start

mutual

/-- The states entered with the lexemes of a derivation, one for each, from a given state on. -/
def Derivation.trail {symbol : Symbol} (state : Automaton.State) :
    Derivation symbol → List Automaton.State
  | .leaf terminal _ => [Automaton.enter state (.terminal terminal)]
  | .node _ parts => parts.trail state

def Derivations.trail {symbols : List Symbol} (state : Automaton.State) :
    Derivations symbols → List Automaton.State
  | .nil => []
  | @Derivations.cons symbol _ first rest =>
      first.trail state ++ rest.trail (Automaton.enter state symbol)

end

/-! ## Trails of statements -/

/-- A symbol that a statement, or a part of one, may start with. -/
def Symbol.IsInner (symbol : Symbol) : Prop :=
  symbol ≠ .nonterminal .program ∧ symbol ≠ .nonterminal .statements ∧
    symbol ≠ .nonterminal .statement

namespace Automaton

/-- The state between two statements of a program. -/
def between : State :=
  enter start (.nonterminal .statements)

theorem enter_between {symbol : Symbol} (inner : symbol.IsInner) :
    enter between symbol = enter start symbol := by
  obtain ⟨notProgram, notStatements, notStatement⟩ := inner
  cases symbol with
  | terminal terminal =>
      cases terminal with
      | keyword word => cases word <;> rfl
      | mark sign => cases sign <;> rfl
      | _ => rfl
  | nonterminal derived =>
      cases derived <;>
        first
        | rfl
        | exact absurd rfl notProgram
        | exact absurd rfl notStatements
        | exact absurd rfl notStatement

end Automaton

theorem Production.isInner_head
    (production : Production)
    (notProgram : production.lhs ≠ .program)
    (notStatements : production.lhs ≠ .statements) :
    ∀ symbol, production.rhs.head? = some symbol → symbol.IsInner := by
  cases production <;>
    first
    | exact absurd rfl notProgram
    | exact absurd rfl notStatements
    | (rintro symbol first
       cases first
       exact ⟨by decide, by decide, by decide⟩)

mutual

/-- A derivation below the level of statements has the same trail at the start of a program and
between two statements. -/
theorem Derivation.trail_between
    {symbol : Symbol} (derivation : Derivation symbol)
    (notProgram : symbol ≠ .nonterminal .program)
    (notStatements : symbol ≠ .nonterminal .statements) :
    derivation.trail Automaton.between = derivation.trail Automaton.start := by
  match derivation with
  | .leaf terminal text =>
      rw [Derivation.trail, Derivation.trail, Automaton.enter_between]
      exact ⟨by simp, by simp, by simp⟩
  | .node production parts =>
      rw [Derivation.trail, Derivation.trail]
      apply Derivations.trail_between parts
      apply production.isInner_head
      · exact fun isProgram => notProgram (congrArg _ isProgram)
      · exact fun isStatements => notStatements (congrArg _ isStatements)

theorem Derivations.trail_between
    {symbols : List Symbol} (derivations : Derivations symbols)
    (inner : ∀ symbol, symbols.head? = some symbol → symbol.IsInner) :
    derivations.trail Automaton.between = derivations.trail Automaton.start := by
  match derivations with
  | .nil => rfl
  | @Derivations.cons symbol _ first rest =>
      have innerFirst : symbol.IsInner := inner symbol rfl
      rw [Derivations.trail, Derivations.trail, Automaton.enter_between innerFirst,
        Derivation.trail_between first innerFirst.1 innerFirst.2.1]

end

theorem StatementsDerivation.trail_ofList
    (first : StatementDerivation)
    (others : List StatementDerivation) :
    (ofList first others).trail Automaton.start =
      (first :: others).flatMap fun statement => statement.trail Automaton.start := by
  induction others using List.reverseRecOn with
  | nil =>
      have unfolded :
          (one first).trail Automaton.start = first.trail Automaton.start ++ [] := rfl
      rw [ofList, List.foldl_nil, unfolded]
      simp
  | append_singleton others statement inductionHypothesis =>
      have unfolded :
          (snoc (ofList first others) statement).trail Automaton.start =
            (ofList first others).trail Automaton.start ++
              (statement.trail Automaton.between ++ []) := rfl
      rw [ofList_append_singleton, unfolded, inductionHypothesis,
        statement.trail_between (by decide) (by decide)]
      simp

/-- The trail of a program is made of those of its statements, each from the first state on. -/
theorem ProgramDerivation.trail_ofStatements (statements : List StatementDerivation) :
    (ofStatements statements).trail Automaton.start =
      statements.flatMap fun statement => statement.trail Automaton.start := by
  cases statements with
  | nil => rfl
  | cons first others =>
      have unfolded :
          (ofStatements (first :: others)).trail Automaton.start =
            (StatementsDerivation.ofList first others).trail Automaton.start ++ [] := rfl
      rw [unfolded, StatementsDerivation.trail_ofList, List.append_nil]

end Scriptlet
