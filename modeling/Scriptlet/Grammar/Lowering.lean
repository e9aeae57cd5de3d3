import Scriptlet.Grammar.Derivation
import Scriptlet.Tree.Node

/-!
# Lowering

Lowering: the tree that a derivation stands for, built from the bottom up. Every symbol has a type
of meanings and every production an action on the meanings of its parts, so lowering is total.

The actions leave three decisions to a `Shaping`: how a binary operator joins an operand to a
chain, how an expression is marked as a condition, and how it is marked as a vector. Trees for
evaluation use `Shaping.compact`.
-/

namespace Scriptlet

/-! ## Meanings of symbols -/

/-- What a nonterminal is lowered to: names, nodes, or a single node. -/
abbrev Nonterminal.Meaning : Nonterminal → Type
  | .moreNames => List String
  | .params | .args | .statements | .moreExprs => List Node
  | _ => Node

/-- What a symbol is lowered to: a terminal to its text. -/
abbrev Symbol.Meaning : Symbol → Type
  | .terminal _ => String
  | .nonterminal derived => derived.Meaning

/-- What a sequence of symbols is lowered to. -/
abbrev Meanings : List Symbol → Type
  | [] => Unit
  | symbol :: symbols => symbol.Meaning × Meanings symbols

/-! ## Shapings -/

/-- The decisions that lowering leaves open. -/
structure Shaping where
  /-- Joins a left operand and a right operand of an operator that forms chains. -/
  chain : Kind → Node → Node → Node
  /-- Marks an expression as a condition. -/
  condition : Node → Node
  /-- Marks an expression as a vector. -/
  vector : Node → Node

namespace Node

def reference (name : String) : Node :=
  named .idNum name

/-- Appends an operand to a chain of the same kind, or starts a chain of two. -/
def chainOnto (kind : Kind) (left right : Node) : Node :=
  if left.kind? = some kind then plain kind (left.children ++ [right])
  else plain kind [left, right]

/-- References and calls have kinds of their own where a truth value is expected. -/
def asCondition : Node → Node
  | branch (.kind .idNum) children payload => branch (.kind .idBool) children payload
  | branch (.kind .fnCall) children payload => branch (.kind .booleanCall) children payload
  | node => node

/-- References have a kind of their own where a vector is expected. -/
def asVector : Node → Node
  | branch (.kind .idNum) children payload => branch (.kind .idVec) children payload
  | node => node

end Node

namespace Shaping

/-- Left-nested chains become one node, and references and calls are marked by their use. -/
def compact : Shaping where
  chain := Node.chainOnto
  condition := Node.asCondition
  vector := Node.asVector

/-- Every operator keeps a node of its own and nothing is marked. -/
def plain : Shaping where
  chain := fun kind left right => Node.plain kind [left, right]
  condition := fun node => node
  vector := fun node => node

end Shaping

/-! ## Actions -/

/-- A comparison written with an operator. Only the six operators are ever read as one; other
text would leave the comparison without a relation. -/
def Node.compareWith (left : Node) (operator : String) (right : Node) : Node :=
  match Relation.ofSymbol? operator with
  | some relation => Node.comparison left relation right
  | none => Node.plain .comparison [left, Node.plain .null [], right]

/-- The declaration of variables, with an initial value or without. -/
def Node.declareVars (names : List String) (initial : List Node) : Node :=
  Node.plain .varDecl (Node.plain .identList (names.map Node.reference) :: initial)

def Node.declareFn (name : String) (params : List Node) (body : Node) : Node :=
  .branch (.kind .fnDecl) [Node.plain .identList params, body] (some (.scalar (.text name)))

def Node.call (name : String) (args : List Node) : Node :=
  .branch (.kind .fnCall) [Node.plain .expList args] (some (.scalar (.text name)))

/-- The meaning of a production's left side, given the meanings of its right side. -/
def Production.action (shaping : Shaping) :
    (production : Production) → Meanings production.rhs → production.lhs.Meaning
  | .program, (statements, _) => Node.plain .body statements
  | .programEmpty, _ => Node.plain .body []
  | .statementOfPrint, (statement, _) => statement
  | .statementOfPrintln, (statement, _) => statement
  | .statementOfVar, (statement, _) => statement
  | .statementOfFn, (statement, _) => statement
  | .statementOfAssign, (statement, _) => statement
  | .statementOfIf, (statement, _) => statement
  | .statementOfWhile, (statement, _) => statement
  | .statementOfFor, (statement, _) => statement
  | .statementOfReturn, (statement, _) => statement
  | .statementOfExpr, (expr, _) => expr
  | .printArgs, (_, _, args, _) => Node.plain .print args
  | .printEmpty, _ => Node.plain .print []
  | .printlnArgs, (_, _, args, _) => Node.plain .println args
  | .printlnEmpty, _ => Node.plain .println []
  | .varManyInit, (_, name, names, _, initial, _) => Node.declareVars (name :: names) [initial]
  | .varMany, (_, name, names, _) => Node.declareVars (name :: names) []
  | .varOneInit, (_, name, _, initial, _) => Node.declareVars [name] [initial]
  | .varOne, (_, name, _) => Node.declareVars [name] []
  | .fnParams, (_, name, _, params, _, body, _) => Node.declareFn name params body
  | .fnNoParams, (_, name, _, _, body, _) => Node.declareFn name [] body
  | .paramsMany, (name, names, _) => (name :: names).map Node.reference
  | .paramsOne, (name, _) => [Node.reference name]
  | .assign, (name, _, expr, _) => Node.plain .assign [Node.reference name, expr]
  | .ifElse, (_, _, condition, _, body, _, alternative, _) =>
      Node.plain .conditional [shaping.condition condition, body, alternative]
  | .ifOnly, (_, _, condition, _, body, _) =>
      Node.plain .conditional [shaping.condition condition, body, Node.plain .null []]
  | .elseBlock, (block, _) => block
  | .elseIf, (statement, _) => statement
  | .whileMany, (_, _, condition, conditions, _, body, _) =>
      Node.plain .whileLoop
        [Node.plain .conditionList ((condition :: conditions).map shaping.condition), body]
  | .whileOne, (_, _, condition, _, body, _) =>
      Node.plain .whileLoop [shaping.condition condition, body]
  | .forIn, (_, name, _, source, body, _) =>
      Node.plain .forLoop [Node.reference name, shaping.vector source, body]
  | .returnExpr, (_, expr, _) => Node.plain .returnValue [expr]
  | .returnEmpty, _ => Node.plain .returnValue []
  | .blockStatements, (_, statements, _) => Node.plain .clause statements
  | .blockEmpty, _ => Node.plain .clause []
  | .argsMany, (expr, exprs, _) => expr :: exprs
  | .argsOne, (expr, _) => [expr]
  | .exprOfOr, (expr, _) => expr
  | .orOfAnd, (expr, _) => expr
  | .orChain, (left, _, right, _) =>
      shaping.chain .disjunction (shaping.condition left) (shaping.condition right)
  | .andOfNot, (expr, _) => expr
  | .andChain, (left, _, right, _) =>
      shaping.chain .conjunction (shaping.condition left) (shaping.condition right)
  | .notOfCmp, (expr, _) => expr
  | .notBang, (_, expr, _) => Node.plain .inversion [shaping.condition expr]
  | .cmpOfSum, (expr, _) => expr
  | .cmpRelation, (left, operator, right, _) => Node.compareWith left operator right
  | .cmpIn, (left, _, right, _) => Node.plain .isIn [left, shaping.vector right]
  | .cmpNotIn, (left, _, _, right, _) => Node.plain .notIn [left, shaping.vector right]
  | .sumOfTerm, (expr, _) => expr
  | .sumPlus, (left, _, right, _) => shaping.chain .sum left right
  | .sumMinus, (left, _, right, _) => shaping.chain .sum left (Node.plain .neg [right])
  | .termOfUnary, (expr, _) => expr
  | .termTimes, (left, _, right, _) => Node.plain .mul [left, right]
  | .termDivide, (left, _, right, _) => Node.plain .div [left, right]
  | .termModulo, (left, _, right, _) => Node.plain .mod [left, right]
  | .unaryOfAtom, (expr, _) => expr
  | .unaryMinus, (_, expr, _) => Node.plain .neg [expr]
  | .unaryPlus, (_, expr, _) => Node.plain .pos [expr]
  | .atomNumber, (digits, _) => Node.named .number digits
  | .atomString, (quoted, _) => Node.named .string quoted
  | .atomTrue, _ => Node.plain .trueLiteral []
  | .atomFalse, _ => Node.plain .falseLiteral []
  | .atomCall, (name, _, args, _) => Node.call name args
  | .atomCallEmpty, (name, _) => Node.call name []
  | .atomName, (name, _) => Node.reference name
  | .atomVector, (_, args, _) => Node.plain .vecConst args
  | .atomVectorEmpty, _ => Node.plain .vecConst []
  | .atomParens, (_, expr, _) => expr
  | .statementsOne, (statement, _) => [statement]
  | .statementsMore, (statements, statement, _) => statements ++ [statement]
  | .moreNamesOne, (_, name, _) => [name]
  | .moreNamesMore, (names, _, name, _) => names ++ [name]
  | .moreExprsOne, (_, expr, _) => [expr]
  | .moreExprsMore, (exprs, _, expr, _) => exprs ++ [expr]

/-! ## Lowering derivations -/

mutual

/-- The meaning of a derivation. -/
def Derivation.lower (shaping : Shaping) {symbol : Symbol} : Derivation symbol → symbol.Meaning
  | .leaf _ lexeme => lexeme
  | .node production parts => production.action shaping (parts.lower shaping)

def Derivations.lower (shaping : Shaping) {symbols : List Symbol} :
    Derivations symbols → Meanings symbols
  | .nil => ()
  | .cons first rest => (first.lower shaping, rest.lower shaping)

end

end Scriptlet
