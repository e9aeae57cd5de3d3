import Mathlib.Data.List.Forall2
import Scriptlet.Grammar.Lowering

/-!
# Induction over lowering

Lowering is built from the bottom up, so a property of meanings that the action of every
production hands on from the parts to the whole holds of every derivation. The principle is
stated for a relation between two lowerings of one derivation, and then for a property of one.
-/

namespace Scriptlet

namespace Meanings

/-- A relation between the meanings of each symbol holds along a sequence of symbols. -/
def Related
    (related : (symbol : Symbol) → symbol.Meaning → symbol.Meaning → Prop) :
    (symbols : List Symbol) → Meanings symbols → Meanings symbols → Prop
  | [], _, _ => True
  | symbol :: symbols, (left, lefts), (right, rights) =>
      related symbol left right ∧ Related related symbols lefts rights

/-- A property of the meanings of each symbol holds along a sequence of symbols. -/
def All
    (holds : (symbol : Symbol) → symbol.Meaning → Prop) :
    (symbols : List Symbol) → Meanings symbols → Prop
  | [], _ => True
  | symbol :: symbols, (meaning, meanings) =>
      holds symbol meaning ∧ All holds symbols meanings

theorem all_of_related
    {holds : (symbol : Symbol) → symbol.Meaning → Prop} :
    ∀ {symbols : List Symbol} {lefts rights : Meanings symbols},
      Related (fun symbol left _ => holds symbol left) symbols lefts rights →
        All holds symbols lefts
  | [], _, _, _ => trivial
  | _ :: _, (_, _), (_, _), ⟨first, rest⟩ => ⟨first, all_of_related rest⟩

end Meanings

/-- A property of nodes holds of every node in the meaning of a symbol, and `lexeme` of the text
of a terminal. -/
def Symbol.Each (lexeme : Terminal → String → Prop) (holds : Node → Prop) :
    (symbol : Symbol) → symbol.Meaning → Prop
  | .terminal read, text => lexeme read text
  | .nonterminal .moreNames, _ => True
  | .nonterminal .params, nodes | .nonterminal .args, nodes | .nonterminal .statements, nodes
  | .nonterminal .moreExprs, nodes => ∀ node ∈ nodes, holds node
  | .nonterminal .program, node | .nonterminal .statement, node | .nonterminal .printing, node
  | .nonterminal .printingLine, node | .nonterminal .varDecl, node | .nonterminal .fnDecl, node
  | .nonterminal .assign, node | .nonterminal .ifElse, node | .nonterminal .elseBranch, node
  | .nonterminal .whileLoop, node | .nonterminal .forLoop, node | .nonterminal .returning, node
  | .nonterminal .block, node | .nonterminal .expr, node | .nonterminal .orExpr, node
  | .nonterminal .andExpr, node | .nonterminal .notExpr, node | .nonterminal .cmpExpr, node
  | .nonterminal .sumExpr, node | .nonterminal .term, node | .nonterminal .unary, node
  | .nonterminal .atom, node => holds node

/-- A relation between nodes holds between the nodes of two meanings of a symbol, one by one, and
their texts are the same. -/
def Symbol.Paired (related : Node → Node → Prop) :
    (symbol : Symbol) → symbol.Meaning → symbol.Meaning → Prop
  | .terminal _, left, right => left = right
  | .nonterminal .moreNames, lefts, rights => lefts = rights
  | .nonterminal .params, lefts, rights | .nonterminal .args, lefts, rights
  | .nonterminal .statements, lefts, rights
  | .nonterminal .moreExprs, lefts, rights => List.Forall₂ related lefts rights
  | .nonterminal .program, left, right | .nonterminal .statement, left, right
  | .nonterminal .printing, left, right | .nonterminal .printingLine, left, right
  | .nonterminal .varDecl, left, right | .nonterminal .fnDecl, left, right
  | .nonterminal .assign, left, right | .nonterminal .ifElse, left, right
  | .nonterminal .elseBranch, left, right | .nonterminal .whileLoop, left, right
  | .nonterminal .forLoop, left, right | .nonterminal .returning, left, right
  | .nonterminal .block, left, right | .nonterminal .expr, left, right
  | .nonterminal .orExpr, left, right | .nonterminal .andExpr, left, right
  | .nonterminal .notExpr, left, right | .nonterminal .cmpExpr, left, right
  | .nonterminal .sumExpr, left, right | .nonterminal .term, left, right
  | .nonterminal .unary, left, right | .nonterminal .atom, left, right => related left right

mutual

/-- A relation that holds for lexemes and is kept by every action holds between two lowerings of
any derivation. -/
theorem Derivation.lower_related
    {left right : Shaping} {good : Lexeme → Prop}
    {related : (symbol : Symbol) → symbol.Meaning → symbol.Meaning → Prop}
    (leaf : ∀ terminal text, good (terminal, text) → related (.terminal terminal) text text)
    (action :
      ∀ (production : Production) (lefts rights : Meanings production.rhs),
        Meanings.Related related production.rhs lefts rights →
          related (.nonterminal production.lhs)
            (production.action left lefts) (production.action right rights))
    {symbol : Symbol} (derivation : Derivation symbol)
    (allGood : ∀ lexeme ∈ derivation.lexemes, good lexeme) :
    related symbol (derivation.lower left) (derivation.lower right) := by
  match derivation with
  | .leaf terminal text =>
      rw [Derivation.lower, Derivation.lower]
      exact leaf terminal text (allGood _ (by simp [Derivation.lexemes]))
  | .node production parts =>
      rw [Derivation.lexemes] at allGood
      rw [Derivation.lower, Derivation.lower]
      exact action production _ _ (Derivations.lower_related leaf action parts allGood)

theorem Derivations.lower_related
    {left right : Shaping} {good : Lexeme → Prop}
    {related : (symbol : Symbol) → symbol.Meaning → symbol.Meaning → Prop}
    (leaf : ∀ terminal text, good (terminal, text) → related (.terminal terminal) text text)
    (action :
      ∀ (production : Production) (lefts rights : Meanings production.rhs),
        Meanings.Related related production.rhs lefts rights →
          related (.nonterminal production.lhs)
            (production.action left lefts) (production.action right rights))
    {symbols : List Symbol} (derivations : Derivations symbols)
    (allGood : ∀ lexeme ∈ derivations.lexemes, good lexeme) :
    Meanings.Related related symbols (derivations.lower left) (derivations.lower right) := by
  match derivations with
  | .nil => trivial
  | .cons first rest =>
      rw [Derivations.lexemes] at allGood
      rw [Derivations.lower, Derivations.lower]
      constructor
      · apply Derivation.lower_related leaf action first
        intro lexeme member
        exact allGood lexeme (List.mem_append_left _ member)
      · apply Derivations.lower_related leaf action rest
        intro lexeme member
        exact allGood lexeme (List.mem_append_right _ member)

end

section Holds

variable {shaping : Shaping} {good : Lexeme → Prop}
  {holds : (symbol : Symbol) → symbol.Meaning → Prop}
  (leaf : ∀ terminal text, good (terminal, text) → holds (.terminal terminal) text)
  (action :
    ∀ (production : Production) (parts : Meanings production.rhs),
      Meanings.All holds production.rhs parts →
        holds (.nonterminal production.lhs) (production.action shaping parts))

include leaf action

/-- A property that holds for lexemes and is kept by every action holds for every lowering. -/
theorem Derivation.lower_holds
    {symbol : Symbol} (derivation : Derivation symbol)
    (allGood : ∀ lexeme ∈ derivation.lexemes, good lexeme) :
    holds symbol (derivation.lower shaping) :=
  @Derivation.lower_related shaping shaping good (fun symbol left _ => holds symbol left) leaf
    (fun production lefts _ allRelated =>
      action production lefts (Meanings.all_of_related allRelated))
    symbol derivation allGood

theorem Derivations.lower_holds
    {symbols : List Symbol} (derivations : Derivations symbols)
    (allGood : ∀ lexeme ∈ derivations.lexemes, good lexeme) :
    Meanings.All holds symbols (derivations.lower shaping) :=
  Meanings.all_of_related <|
    @Derivations.lower_related shaping shaping good (fun symbol left _ => holds symbol left) leaf
      (fun production lefts _ allRelated =>
        action production lefts (Meanings.all_of_related allRelated))
      symbols derivations allGood

end Holds

/-! ## Programs -/

theorem Derivation.cast_program_cases
    {symbol : Symbol} (derivation : Derivation symbol)
    (isProgram : symbol = .nonterminal .program) :
    (∃ statements,
      derivation.cast isProgram = .node .program (.cons statements .nil)) ∨
      derivation.cast isProgram = .node .programEmpty .nil := by
  cases derivation with
  | leaf terminal text => cases isProgram
  | node production parts =>
      have lhs : production.lhs = .program := Symbol.nonterminal.inj isProgram
      cases production
      case program =>
        cases parts with
        | cons statements rest =>
            cases rest with
            | nil => exact .inl ⟨statements, rfl⟩
      case programEmpty =>
        cases parts with
        | nil => exact .inr rfl
      all_goals exact absurd lhs (by decide)

/-- A program is a list of statements, or it is empty. -/
theorem ProgramDerivation.cases (derivation : ProgramDerivation) :
    (∃ statements, derivation = .node .program (.cons statements .nil)) ∨
      derivation = .node .programEmpty .nil :=
  Derivation.cast_program_cases derivation rfl

end Scriptlet
