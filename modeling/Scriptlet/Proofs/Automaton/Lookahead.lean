import Scriptlet.Proofs.Automaton.Items

/-!
# What may come next

For every nonterminal, the terminals that its lexemes may start with and the terminals that may
follow it. The automaton loses no derivation if it agrees with these sets: at a position before a
symbol it has a transition over that symbol, and at the end of a production it calls for the
reduction on everything that may follow the left side. Both are checked once over the whole table.
-/

namespace Scriptlet

/-! ## First terminals -/

/-- The terminals that the lexemes of a nonterminal may start with. A program may be empty and
never stands inside another production, so it has no entry. -/
def Nonterminal.starters : Nonterminal → List Terminal
  | .program => []
  | .statements | .statement => Automaton.statementShifts.map Prod.fst
  | .printing => [.keyword .printWord]
  | .printingLine => [.keyword .printlnWord]
  | .varDecl => [.keyword .varWord]
  | .fnDecl => [.keyword .fnWord]
  | .params | .assign => [.ident]
  | .ifElse => [.keyword .ifWord]
  | .elseBranch => [.keyword .ifWord, .mark .leftBrace]
  | .whileLoop => [.keyword .whileWord]
  | .forLoop => [.keyword .forWord]
  | .returning => [.keyword .returnWord]
  | .block => [.mark .leftBrace]
  | .args | .expr | .orExpr | .andExpr | .notExpr => Automaton.exprShifts.map Prod.fst
  | .cmpExpr | .sumExpr | .term | .unary | .atom => Automaton.operandShifts.map Prod.fst
  | .moreNames | .moreExprs => [.mark .comma]

def Symbol.starters : Symbol → List Terminal
  | .terminal read => [read]
  | .nonterminal derived => derived.starters

theorem Production.exists_first_symbol
    (production : Production)
    (notProgram : production.lhs ≠ .program) :
    ∃ symbol,
      production.rhs.head? = some symbol ∧ symbol ≠ .nonterminal .program ∧
        symbol.starters ⊆ production.lhs.starters := by
  cases production <;>
    first
    | exact absurd rfl notProgram
    | exact ⟨_, rfl, by decide, by decide⟩

mutual

/-- A derivation of anything but a program has a first lexeme, of one of the first terminals. -/
theorem Derivation.exists_first_lexeme
    {symbol : Symbol} (derivation : Derivation symbol)
    (notProgram : symbol ≠ .nonterminal .program) :
    ∃ lexeme rest, derivation.lexemes = lexeme :: rest ∧ lexeme.1 ∈ symbol.starters := by
  match derivation with
  | .leaf terminal text =>
      exact ⟨(terminal, text), [], by rw [Derivation.lexemes], List.mem_singleton.2 rfl⟩
  | .node production parts =>
      obtain ⟨first, starts, firstNotProgram, among⟩ :=
        production.exists_first_symbol fun isProgram => notProgram (isProgram ▸ rfl)
      obtain ⟨lexeme, rest, lexemes, member⟩ :=
        Derivations.exists_first_lexeme parts starts firstNotProgram
      exact ⟨lexeme, rest, by rw [Derivation.lexemes, lexemes], among member⟩

theorem Derivations.exists_first_lexeme
    {symbols : List Symbol} {first : Symbol} (derivations : Derivations symbols)
    (starts : symbols.head? = some first)
    (notProgram : first ≠ .nonterminal .program) :
    ∃ lexeme rest, derivations.lexemes = lexeme :: rest ∧ lexeme.1 ∈ first.starters := by
  match derivations with
  | .nil => cases starts
  | .cons head tail =>
      have same := Option.some.inj starts
      obtain ⟨lexeme, rest, lexemes, member⟩ :=
        Derivation.exists_first_lexeme head (same ▸ notProgram)
      refine ⟨lexeme, rest ++ tail.lexemes, ?_, same ▸ member⟩
      rw [Derivations.lexemes, lexemes, List.cons_append]

end

/-! ## Following terminals -/

theorem Production.mem_all (production : Production) : production ∈ Production.all := by
  cases production <;> decide

namespace Automaton

/-- The terminals that may follow a nonterminal. -/
def followers : Nonterminal → List Terminal
  | .program => afterProgram
  | .statements | .statement | .printing | .printingLine | .varDecl | .fnDecl | .assign
  | .ifElse | .elseBranch | .whileLoop | .forLoop | .returning => afterStatement
  | .params => afterParams
  | .block => afterBlock
  | .args => afterArgs
  | .expr => afterExpr
  | .orExpr => afterOr
  | .andExpr | .notExpr | .cmpExpr => afterAnd
  | .sumExpr => afterSum
  | .term | .unary | .atom => afterOperand
  | .moreNames => afterMoreNames
  | .moreExprs => afterMoreExprs

/-- The states at the start of a statement, and the one after a name there. -/
def openingStates : List State :=
  [0, 2, 18, 129, 138]

/-- What ends an expression inside another construct, but never one that is a statement. -/
def closers : List Terminal :=
  [.mark .comma, .mark .rightParen, .mark .rightBracket, .mark .leftBrace]

/-- The terminals that may follow a nonterminal expected in a state. -/
def followersAt (state : State) (derived : Nonterminal) : List Terminal :=
  if openingStates.contains state then (followers derived).filter (!closers.contains ·)
  else followers derived

def positions (state : State) : List (Production × Nat) :=
  (row state).kernel ++
    (Production.all.filter fun production => (goto? state production.lhs).isSome).map (·, 0)

/-- The terminals that may come after a nonterminal, given the symbols that stand behind it in a
production and what may follow the whole. -/
def comingNext (rest : List Symbol) (following : List Terminal) : List Terminal :=
  match rest with
  | [] => following
  | symbol :: _ => symbol.starters

/-- Whether a state does what a position calls for: it reduces at the end of a production, and
before a symbol it moves over it, keeping track of what may follow. -/
def serves (state : State) (position : Production × Nat) : Bool :=
  let following := followersAt state position.1.lhs
  match position.1.rhs.drop position.2 with
  | [] => following.all fun terminal => action? state terminal == some (.reduce position.1)
  | symbol :: rest =>
      (next? state symbol).any fun target =>
        (row target).kernel.contains (position.1, position.2 + 1) &&
          following.all (followersAt target position.1.lhs).contains &&
          match symbol with
          | .terminal _ => true
          | .nonterminal derived =>
              (comingNext rest following).all (followersAt state derived).contains

def positionsChecked : Bool :=
  (List.range rows.length).all fun state => (positions state).all (serves state)

theorem positionsChecked_eq_true : positionsChecked = true := by
  decide +kernel

/-! ## What the check says about one position -/

theorem mem_positions_of_stands
    {state : State} {production : Production} {dot : Nat}
    (standing : stands state production dot = true) :
    (production, dot) ∈ positions state := by
  simp only [stands, Bool.or_eq_true, List.contains_iff_mem, Bool.and_eq_true,
    beq_iff_eq] at standing
  rcases standing with kernel | ⟨rfl, expected⟩
  · exact List.mem_append_left _ kernel
  · apply List.mem_append_right
    apply List.mem_map.2
    exact ⟨production, List.mem_filter.2 ⟨Production.mem_all production, expected⟩, rfl⟩

theorem serves_of_stands
    {state : State} {production : Production} {dot : Nat}
    (standing : stands state production dot = true) :
    serves state (production, dot) = true := by
  have member := mem_positions_of_stands standing
  have inside : state < rows.length := by
    apply lt_length_of_row_ne
    intro empty
    simp [positions, goto?, empty] at member
  have checked := List.all_eq_true.1 positionsChecked_eq_true state (List.mem_range.2 inside)
  exact List.all_eq_true.1 checked _ member

theorem action?_of_stands_end
    {state : State} {production : Production} {terminal : Terminal}
    (standing : stands state production production.rhs.length = true)
    (follows : terminal ∈ followersAt state production.lhs) :
    action? state terminal = some (.reduce production) := by
  have served := serves_of_stands standing
  simp only [serves, List.drop_length, List.all_eq_true, beq_iff_eq] at served
  exact served terminal follows

/-- Before a symbol the state has a transition over it, and behind the symbol the same may follow
the production. -/
theorem exists_next_of_stands
    {state : State} {production : Production} {dot : Nat} {symbol : Symbol}
    {rest : List Symbol}
    (standing : stands state production dot = true)
    (behind : production.rhs.drop dot = symbol :: rest) :
    ∃ target,
      next? state symbol = some target ∧ stands target production (dot + 1) = true ∧
        followersAt state production.lhs ⊆ followersAt target production.lhs ∧
        ∀ derived, symbol = .nonterminal derived →
          comingNext rest (followersAt state production.lhs) ⊆ followersAt state derived := by
  have served := serves_of_stands standing
  simp only [serves, behind, Option.any_eq_true] at served
  obtain ⟨target, enters, checked⟩ := served
  simp only [Bool.and_eq_true] at checked
  obtain ⟨⟨kernel, kept⟩, coming⟩ := checked
  refine ⟨target, enters, ?_, ?_, ?_⟩
  · simp only [stands, kernel, Bool.true_or]
  · intro terminal member
    simpa using List.all_eq_true.1 kept terminal member
  · rintro derived rfl terminal member
    simpa using List.all_eq_true.1 coming terminal member

end Automaton

end Scriptlet
