import Scriptlet.Proofs.Grammar.Meaning
import Scriptlet.Proofs.Lexing.Pattern

/-!
# Handlers

Lowering once more, without types: the parts of a production hand up plain pieces, and a handler
unpacks the list of them by position. Marks and reserved words hand up nothing, an optional part
that is left out hands up an absent piece in its place, and lists of statements, names and
expressions are spliced into the production that holds them. A handler may refuse its pieces; the
main statement is that no handler ever does, and that the outcome is the lowering of the
derivation.
-/

namespace Scriptlet

/-- What a part of a production hands up. -/
inductive Piece where
  | token (text : String)
  | node (node : Node)
  | nodes (nodes : List Node)
  | absent

namespace Piece

def token? : Piece → Option String
  | token text => some text
  | _ => none

def node? : Piece → Option Node
  | node content => some content
  | _ => none

def nodes? : Piece → Option (List Node)
  | nodes content => some content
  | absent => some []
  | _ => none

def optional? : Piece → Option (List Node)
  | node content => some [content]
  | absent => some []
  | _ => none

end Piece

/-! ## Handlers of productions -/

/-- How the pieces of a production are put together. -/
inductive Handler where
  /-- The pieces are handed on one by one. -/
  | splice
  /-- The only piece is handed on. -/
  | inline
  | program
  | block
  | args
  | params
  | printing (kind : Kind)
  | varDecl
  | fnDecl
  | assign
  | conditional
  | whileLoop
  | forLoop
  | returning
  | logic (kind : Kind)
  | inversion
  | comparison
  | membership (kind : Kind)
  | add
  | sub
  | operator (kind : Kind)
  | literal (kind : Kind)
  | truth (kind : Kind)
  | reference
  | call
  | vector

namespace Handler

/-- Puts pieces together, or refuses them. -/
def apply (shaping : Shaping) : Handler → List Piece → Option (List Piece)
  | splice, pieces => some pieces
  | inline, [piece] => some [piece]
  | program, pieces => do
      let statements ← pieces.mapM Piece.node?
      return [.node (Node.plain .body statements)]
  | block, pieces => do
      let statements ← pieces.mapM Piece.node?
      return [.node (Node.plain .clause statements)]
  | args, pieces => do
      let exprs ← pieces.mapM Piece.node?
      return [.nodes exprs]
  | params, pieces => do
      let names ← pieces.mapM Piece.token?
      return [.nodes (names.map Node.reference)]
  | printing kind, first :: _ => do
      let shown ← first.nodes?
      return [.node (Node.plain kind shown)]
  | varDecl, pieces => do
      let names ← pieces.dropLast.mapM Piece.token?
      let last ← pieces.getLast?
      let initial ← last.optional?
      return [.node (Node.declareVars names initial)]
  | fnDecl, [name, parameters, body] => do
      return [.node (Node.declareFn (← name.token?) (← parameters.nodes?) (← body.node?))]
  | assign, [name, value] => do
      return [.node (Node.plain .assign [Node.reference (← name.token?), ← value.node?])]
  | conditional, [condition, body, alternative] => do
      let condition ← condition.node?
      let body ← body.node?
      let alternative ← alternative.optional?
      let chosen := alternative.headD (Node.plain .null [])
      return [.node (Node.plain .conditional [shaping.condition condition, body, chosen])]
  | whileLoop, pieces => do
      let conditions ← pieces.dropLast.mapM Piece.node?
      let last ← pieces.getLast?
      let body ← last.node?
      let head :=
        match conditions with
        | [condition] => shaping.condition condition
        | _ => Node.plain .conditionList (conditions.map shaping.condition)
      return [.node (Node.plain .whileLoop [head, body])]
  | forLoop, [name, source, body] => do
      let name ← name.token?
      let source ← source.node?
      let body ← body.node?
      return [.node (Node.plain .forLoop [Node.reference name, shaping.vector source, body])]
  | returning, first :: _ => do
      let result ← first.optional?
      return [.node (Node.plain .returnValue result)]
  | logic kind, [left, right] => do
      let left ← left.node?
      let right ← right.node?
      return [.node (shaping.chain kind (shaping.condition left) (shaping.condition right))]
  | inversion, first :: _ => do
      return [.node (Node.plain .inversion [shaping.condition (← first.node?)])]
  | comparison, [left, written, right] => do
      let left ← left.node?
      let relation ← Relation.ofSymbol? (← written.token?)
      let right ← right.node?
      return [.node (Node.comparison left relation right)]
  | membership kind, [left, right] => do
      return [.node (Node.plain kind [← left.node?, shaping.vector (← right.node?)])]
  | add, [left, right] => do
      return [.node (shaping.chain .sum (← left.node?) (← right.node?))]
  | sub, [left, right] => do
      return [.node (shaping.chain .sum (← left.node?) (Node.plain .neg [← right.node?]))]
  | operator kind, pieces => do
      let operands ← pieces.mapM Piece.node?
      return [.node (Node.plain kind operands)]
  | literal kind, first :: _ => do
      return [.node (Node.named kind (← first.token?))]
  | truth kind, _ => some [.node (Node.plain kind [])]
  | reference, first :: _ => do
      return [.node (Node.reference (← first.token?))]
  | call, [name, arguments] => do
      return [.node (Node.call (← name.token?) (← arguments.nodes?))]
  | vector, first :: _ => do
      return [.node (Node.plain .vecConst (← first.nodes?))]
  | _, _ => none

end Handler

namespace Production

def handler : Production → Handler
  | .program | .programEmpty => .program
  | .statementOfPrint | .statementOfPrintln | .statementOfVar | .statementOfFn
  | .statementOfAssign | .statementOfIf | .statementOfWhile | .statementOfFor
  | .statementOfReturn | .statementOfExpr | .elseBlock | .elseIf | .exprOfOr | .orOfAnd
  | .andOfNot | .notOfCmp | .cmpOfSum | .sumOfTerm | .termOfUnary | .unaryOfAtom
  | .atomParens => .inline
  | .printArgs | .printEmpty => .printing .print
  | .printlnArgs | .printlnEmpty => .printing .println
  | .varManyInit | .varMany | .varOneInit | .varOne => .varDecl
  | .fnParams | .fnNoParams => .fnDecl
  | .paramsMany | .paramsOne => .params
  | .assign => .assign
  | .ifElse | .ifOnly => .conditional
  | .whileMany | .whileOne => .whileLoop
  | .forIn => .forLoop
  | .returnExpr | .returnEmpty => .returning
  | .blockStatements | .blockEmpty => .block
  | .argsMany | .argsOne => .args
  | .orChain => .logic .disjunction
  | .andChain => .logic .conjunction
  | .notBang => .inversion
  | .cmpRelation => .comparison
  | .cmpIn => .membership .isIn
  | .cmpNotIn => .membership .notIn
  | .sumPlus => .add
  | .sumMinus => .sub
  | .termTimes => .operator .mul
  | .termDivide => .operator .div
  | .termModulo => .operator .mod
  | .unaryMinus => .operator .neg
  | .unaryPlus => .operator .pos
  | .atomNumber => .literal .number
  | .atomString => .literal .string
  | .atomTrue => .truth .trueLiteral
  | .atomFalse => .truth .falseLiteral
  | .atomCall | .atomCallEmpty => .call
  | .atomName => .reference
  | .atomVector | .atomVectorEmpty => .vector
  | .statementsOne | .statementsMore | .moreNamesOne | .moreNamesMore | .moreExprsOne
  | .moreExprsMore => .splice

/-- Where in its right side a production leaves an optional part out. -/
def omitted? : Production → Option Nat
  | .printEmpty | .printlnEmpty | .atomCallEmpty => some 2
  | .varMany | .fnNoParams => some 3
  | .varOne => some 2
  | .ifOnly => some 5
  | .returnEmpty | .atomVectorEmpty => some 1
  | _ => none

/-- The pieces that a production hands to its handler, given those of its parts. -/
def gather (production : Production) (parts : List (List Piece)) : List Piece :=
  match production.omitted? with
  | none => parts.flatten
  | some place => (parts.take place).flatten ++ [.absent] ++ (parts.drop place).flatten

end Production

/-- Whether the lexemes of a terminal are handed up; fixed spellings are not. -/
def Terminal.isKept : Terminal → Bool
  | .ident | .number | .string | .relation => true
  | _ => false

mutual

/-- What a derivation hands up, if no handler refuses. -/
def Derivation.handUp (shaping : Shaping) {symbol : Symbol} :
    Derivation symbol → Option (List Piece)
  | .leaf terminal lexeme => some (if terminal.isKept then [.token lexeme] else [])
  | .node production parts => do
      production.handler.apply shaping (production.gather (← parts.handUp shaping))

def Derivations.handUp (shaping : Shaping) {symbols : List Symbol} :
    Derivations symbols → Option (List (List Piece))
  | .nil => some []
  | .cons first rest => do
      return (← first.handUp shaping) :: (← rest.handUp shaping)

end

/-! ## Meanings as pieces -/

/-- The pieces that stand for a meaning. -/
def Symbol.pieces : (symbol : Symbol) → symbol.Meaning → List Piece
  | .terminal read, text => if read.isKept then [.token text] else []
  | .nonterminal .moreNames, names => names.map .token
  | .nonterminal .params, nodes | .nonterminal .args, nodes => [.nodes nodes]
  | .nonterminal .statements, nodes | .nonterminal .moreExprs, nodes => nodes.map .node
  | .nonterminal .program, node | .nonterminal .statement, node | .nonterminal .printing, node
  | .nonterminal .printingLine, node | .nonterminal .varDecl, node | .nonterminal .fnDecl, node
  | .nonterminal .assign, node | .nonterminal .ifElse, node | .nonterminal .elseBranch, node
  | .nonterminal .whileLoop, node | .nonterminal .forLoop, node | .nonterminal .returning, node
  | .nonterminal .block, node | .nonterminal .expr, node | .nonterminal .orExpr, node
  | .nonterminal .andExpr, node | .nonterminal .notExpr, node | .nonterminal .cmpExpr, node
  | .nonterminal .sumExpr, node | .nonterminal .term, node | .nonterminal .unary, node
  | .nonterminal .atom, node => [.node node]

def Meanings.pieces : (symbols : List Symbol) → Meanings symbols → List (List Piece)
  | [], _ => []
  | symbol :: symbols, (meaning, meanings) =>
      symbol.pieces meaning :: Meanings.pieces symbols meanings

/-- What handlers rely on: lexemes are full matches, and a list of further expressions has at
least one. -/
def Symbol.Proper : (symbol : Symbol) → symbol.Meaning → Prop
  | .terminal read, text => Lexeme.Fits (read, text)
  | .nonterminal .moreExprs, exprs => exprs ≠ []
  | .nonterminal _, _ => True

theorem Production.action_proper
    (shaping : Shaping) (production : Production) (parts : Meanings production.rhs) :
    Symbol.Proper (.nonterminal production.lhs) (production.action shaping parts) := by
  cases production
  case moreExprsOne => exact List.cons_ne_nil _ _
  case moreExprsMore => exact List.append_ne_nil_of_right_ne_nil _ (List.cons_ne_nil _ _)
  all_goals trivial

@[simp]
theorem mapM_node?_map_node (nodes : List Node) :
    (nodes.map Piece.node).mapM Piece.node? = some nodes := by
  induction nodes with
  | nil => rfl
  | cons first rest inductionHypothesis =>
      simp [List.mapM_cons, Piece.node?, inductionHypothesis]

@[simp]
theorem mapM_token?_map_token (names : List String) :
    (names.map Piece.token).mapM Piece.token? = some names := by
  induction names with
  | nil => rfl
  | cons first rest inductionHypothesis =>
      simp [List.mapM_cons, Piece.token?, inductionHypothesis]

theorem exists_ofSymbol?_eq_some
    {operator : String}
    (fits : Lexeme.Fits (.relation, operator)) :
    ∃ relation, Relation.ofSymbol? operator = some relation := by
  have member : operator.toList ∈ Lexing.relationSpellings :=
    Lexing.mem_pattern_relation_iff.1 fits
  rw [← String.ofList_toList (s := operator)]
  simp only [Lexing.relationSpellings, List.mem_cons, List.not_mem_nil, or_false] at member
  rcases member with same | same | same | same | same | same <;> rw [same]
  · exact ⟨.lessOrEqual, by decide⟩
  · exact ⟨.greaterOrEqual, by decide⟩
  · exact ⟨.equal, by decide⟩
  · exact ⟨.different, by decide⟩
  · exact ⟨.less, by decide⟩
  · exact ⟨.greater, by decide⟩

theorem Handler.apply_varDecl
    (shaping : Shaping) (names : List String) {last : Piece} {initial : List Node}
    (unpacked : last.optional? = some initial) :
    Handler.apply shaping .varDecl (names.map .token ++ [last]) =
      some [.node (Node.declareVars names initial)] := by
  simp only [Handler.apply, List.dropLast_concat, mapM_token?_map_token, List.getLast?_concat]
  simp [unpacked]

theorem Handler.apply_whileLoop
    (shaping : Shaping) (condition : Node) {conditions : List Node} (body : Node)
    (further : conditions ≠ []) :
    Handler.apply shaping .whileLoop ((condition :: conditions).map .node ++ [.node body]) =
      some
        [.node
          (Node.plain .whileLoop
            [Node.plain .conditionList ((condition :: conditions).map shaping.condition),
              body])] := by
  obtain ⟨second, rest, rfl⟩ := List.exists_cons_of_ne_nil further
  simp only [Handler.apply, List.dropLast_concat, mapM_node?_map_node, List.getLast?_concat]
  rfl

/-- No handler refuses what the parts of its production stand for, and it puts them together as
the action of the production does. Only the productions with lists among their parts, and the
comparison, need an argument; for the others both sides compute to the same. -/
theorem Production.apply_handler
    (shaping : Shaping) (production : Production) (parts : Meanings production.rhs)
    (proper : Meanings.All Symbol.Proper production.rhs parts) :
    production.handler.apply shaping (production.gather (Meanings.pieces production.rhs parts)) =
      some (Symbol.pieces (.nonterminal production.lhs) (production.action shaping parts)) := by
  cases production
  case cmpRelation =>
    obtain ⟨left, operator, right, _⟩ := parts
    have operatorFits : Lexeme.Fits (.relation, operator) := proper.2.1
    obtain ⟨relation, read⟩ := exists_ofSymbol?_eq_some operatorFits
    change
      Handler.apply shaping .comparison [.node left, .token operator, .node right] =
        some [.node (Node.compareWith left operator right)]
    simp [Handler.apply, Piece.token?, Piece.node?, Node.compareWith, read]
  case program =>
    obtain ⟨statements, _⟩ := parts
    change Handler.apply shaping .program (statements.map .node ++ []) = _
    rw [List.append_nil, Handler.apply, mapM_node?_map_node]
    rfl
  case blockStatements =>
    obtain ⟨_, statements, _⟩ := parts
    change Handler.apply shaping .block (statements.map .node ++ []) = _
    rw [List.append_nil, Handler.apply, mapM_node?_map_node]
    rfl
  case varManyInit =>
    obtain ⟨_, name, names, _, initial, _⟩ := parts
    exact Handler.apply_varDecl shaping (name :: names) rfl
  case varMany =>
    obtain ⟨_, name, names, _⟩ := parts
    change
      Handler.apply shaping .varDecl (.token name :: (names.map .token ++ []) ++ [.absent] ++ []) =
        some [.node (Node.declareVars (name :: names) [])]
    rw [List.append_nil, List.append_nil]
    exact Handler.apply_varDecl shaping (name :: names) rfl
  case paramsMany =>
    obtain ⟨name, names, _⟩ := parts
    change Handler.apply shaping .params ((name :: names).map .token ++ []) = _
    rw [List.append_nil, Handler.apply, mapM_token?_map_token]
    rfl
  case whileMany =>
    obtain ⟨_, _, condition, conditions, _, body, _⟩ := parts
    have further : conditions ≠ [] := proper.2.2.2.1
    exact Handler.apply_whileLoop shaping condition body further
  case argsMany =>
    obtain ⟨expr, exprs, _⟩ := parts
    change Handler.apply shaping .args ((expr :: exprs).map .node ++ []) = _
    rw [List.append_nil, Handler.apply, mapM_node?_map_node]
    rfl
  case statementsMore =>
    obtain ⟨statements, statement, _⟩ := parts
    change
      some (statements.map Piece.node ++ [statement].map Piece.node) =
        some ((statements ++ [statement]).map Piece.node)
    rw [List.map_append]
  case moreNamesMore =>
    obtain ⟨names, _, name, _⟩ := parts
    change
      some (names.map Piece.token ++ [name].map Piece.token) =
        some ((names ++ [name]).map Piece.token)
    rw [List.map_append]
  case moreExprsMore =>
    obtain ⟨exprs, _, expr, _⟩ := parts
    change
      some (exprs.map Piece.node ++ [expr].map Piece.node) =
        some ((exprs ++ [expr]).map Piece.node)
    rw [List.map_append]
  all_goals rfl

mutual

/-- No handler refuses while a derivation is put together, and the result is its lowering. -/
theorem Derivation.handUp_eq_pieces_lower
    (shaping : Shaping) {symbol : Symbol} (derivation : Derivation symbol)
    (fits : ∀ lexeme ∈ derivation.lexemes, lexeme.Fits) :
    derivation.handUp shaping = some (symbol.pieces (derivation.lower shaping)) := by
  match derivation with
  | .leaf terminal lexeme =>
      rw [Derivation.handUp, Derivation.lower]
      rfl
  | .node production parts =>
      rw [Derivation.lexemes] at fits
      have proper : Meanings.All Symbol.Proper production.rhs (parts.lower shaping) :=
        Derivations.lower_holds (fun _ _ fit => fit)
          (fun production parts _ => production.action_proper shaping parts) parts fits
      rw [Derivation.handUp, Derivation.lower,
        Derivations.handUp_eq_pieces_lower shaping parts fits]
      exact production.apply_handler shaping _ proper

theorem Derivations.handUp_eq_pieces_lower
    (shaping : Shaping) {symbols : List Symbol} (derivations : Derivations symbols)
    (fits : ∀ lexeme ∈ derivations.lexemes, lexeme.Fits) :
    derivations.handUp shaping = some (Meanings.pieces symbols (derivations.lower shaping)) := by
  match derivations with
  | .nil => rfl
  | .cons first rest =>
      rw [Derivations.lexemes] at fits
      have firstHanded :=
        Derivation.handUp_eq_pieces_lower shaping first fun lexeme member =>
          fits lexeme (List.mem_append_left _ member)
      have restHanded :=
        Derivations.handUp_eq_pieces_lower shaping rest fun lexeme member =>
          fits lexeme (List.mem_append_right _ member)
      rw [Derivations.handUp, firstHanded, restHanded, Derivations.lower]
      rfl

end

end Scriptlet
