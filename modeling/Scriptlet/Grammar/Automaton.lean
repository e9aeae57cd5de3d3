import Scriptlet.Grammar.Production

/-!
# The automaton

The LALR(1) automaton of the grammar, as a table. A state stands for positions in productions. It
has the terminals that it shifts, at most one production that it reduces by, with the terminals
that call for it, and the states it goes to after a reduction. The states in which an expression
may start agree on all its inner symbols, so these transitions are shared and only the outermost
one is the state's own.
-/

namespace Scriptlet.Automaton

/-- A state is a position in the table. -/
abbrev State := Nat

/-- What the automaton does in one state. -/
structure Row where
  /-- The positions that the state stands for: a production, and how much of it was read. The
  first state stands for the start of a program, and the second one for its end. -/
  kernel : List (Production × Nat) := []
  shifts : List (Terminal × State) := []
  reduction : Option (Production × List Terminal) := none
  gotos : List (Nonterminal × State) := []

/-! ## Terminals that call for a reduction -/

def afterProgram : List Terminal :=
  [.endOfInput]

def afterExpr : List Terminal :=
  [.mark .semicolon, .mark .comma, .mark .rightParen, .mark .rightBracket, .mark .leftBrace]

/-- What follows an operand of `||`. -/
def afterOr : List Terminal :=
  [.mark .doubleBar] ++ afterExpr

/-- What follows an operand of `&&`. -/
def afterAnd : List Terminal :=
  [.mark .doubleAnd] ++ afterOr

def afterSum : List Terminal :=
  [.relation, .keyword .inWord, .keyword .notWord, .mark .plus, .mark .minus] ++ afterAnd

def afterOperand : List Terminal :=
  [.mark .star, .mark .slash, .mark .percent] ++ afterSum

/-- What follows a name that starts a statement as an expression. -/
def afterName : List Terminal :=
  [.mark .semicolon, .mark .doubleBar, .mark .doubleAnd, .relation, .keyword .inWord,
   .keyword .notWord, .mark .plus, .mark .minus, .mark .star, .mark .slash, .mark .percent]

def afterParams : List Terminal :=
  [.mark .rightParen]

def afterArgs : List Terminal :=
  [.mark .rightParen, .mark .rightBracket]

def afterMoreExprs : List Terminal :=
  [.mark .comma, .mark .rightParen, .mark .rightBracket]

def afterMoreNames : List Terminal :=
  [.mark .comma, .mark .equals, .mark .rightParen, .mark .semicolon]

/-- What follows a statement: the start of another, or the end of the block or program. -/
def afterStatement : List Terminal :=
  [.endOfInput, .mark .rightBrace, .ident, .number, .string, .keyword .printWord,
   .keyword .printlnWord, .keyword .varWord, .keyword .fnWord, .keyword .ifWord,
   .keyword .whileWord, .keyword .forWord, .keyword .returnWord, .keyword .trueWord,
   .keyword .falseWord, .mark .leftParen, .mark .leftBracket, .mark .bang, .mark .plus,
   .mark .minus]

def afterBlock : List Terminal :=
  [.keyword .elseWord] ++ afterStatement

/-! ## Shared transitions -/

/-- Shifts of the terminals that start an operand, names apart. -/
def literalShifts : List (Terminal × State) :=
  [(.number, 34), (.string, 35), (.keyword .trueWord, 36), (.keyword .falseWord, 37),
   (.mark .leftBracket, 38), (.mark .leftParen, 39), (.mark .minus, 32), (.mark .plus, 33)]

def operandShifts : List (Terminal × State) :=
  [(.ident, 53)] ++ literalShifts

def exprShifts : List (Terminal × State) :=
  [(.mark .bang, 27)] ++ operandShifts

/-- Shifts of the reserved words that start a statement. -/
def leadShifts : List (Terminal × State) :=
  [(.keyword .printWord, 14), (.keyword .printlnWord, 15), (.keyword .varWord, 16),
   (.keyword .fnWord, 17), (.keyword .ifWord, 19), (.keyword .whileWord, 20),
   (.keyword .forWord, 21), (.keyword .returnWord, 22)]

/-- Shifts at the start of a statement, where a name may also be assigned to. -/
def statementShifts : List (Terminal × State) :=
  [(.ident, 18), (.mark .bang, 27)] ++ leadShifts ++ literalShifts

def signShifts : List (Terminal × State) :=
  [(.mark .plus, 60), (.mark .minus, 61)]

def factorShifts : List (Terminal × State) :=
  [(.mark .star, 62), (.mark .slash, 63), (.mark .percent, 64)]

def atomGotos : List (Nonterminal × State) :=
  [(.atom, 31)]

/-- Where the start of an expression goes after a signed operand or less. -/
def unaryGotos : List (Nonterminal × State) :=
  (.unary, 30) :: atomGotos

/-- Where the start of an expression goes after a term or less. -/
def termGotos : List (Nonterminal × State) :=
  (.term, 29) :: unaryGotos

/-- Where the start of an expression goes after a sum or less. -/
def sumGotos : List (Nonterminal × State) :=
  (.sumExpr, 28) :: termGotos

/-- Where the start of an expression goes after a comparison or less. -/
def cmpGotos : List (Nonterminal × State) :=
  (.cmpExpr, 26) :: sumGotos

/-- Where the start of an expression goes after a negation or less. -/
def notGotos : List (Nonterminal × State) :=
  (.notExpr, 25) :: cmpGotos

/-- Where the start of an expression goes after a conjunction or less. -/
def andGotos : List (Nonterminal × State) :=
  (.andExpr, 24) :: notGotos

/-- Where the start of an expression goes after a disjunction or less. -/
def orGotos : List (Nonterminal × State) :=
  (.orExpr, 23) :: andGotos

/-- Where the start of a statement goes after one form of statement. -/
def statementGotos : List (Nonterminal × State) :=
  [(.printing, 4), (.printingLine, 5), (.varDecl, 6), (.fnDecl, 7), (.assign, 8), (.ifElse, 9),
   (.whileLoop, 10), (.forLoop, 11), (.returning, 12), (.expr, 13)] ++ orGotos

/-! ## The table -/

def rowsFrom0 : List Row :=
  [ { shifts := statementShifts,
      reduction := some (.programEmpty, afterProgram),
      gotos := [(.program, 1), (.statement, 3), (.statements, 2)] ++ statementGotos },
    {},
    { kernel := [(.program, 1), (.statementsMore, 1)],
      shifts := statementShifts,
      reduction := some (.program, afterProgram),
      gotos := (.statement, 40) :: statementGotos },
    { kernel := [(.statementsOne, 1)], reduction := some (.statementsOne, afterStatement) },
    { kernel := [(.statementOfPrint, 1)],
      reduction := some (.statementOfPrint, afterStatement) },
    { kernel := [(.statementOfPrintln, 1)],
      reduction := some (.statementOfPrintln, afterStatement) },
    { kernel := [(.statementOfVar, 1)], reduction := some (.statementOfVar, afterStatement) },
    { kernel := [(.statementOfFn, 1)], reduction := some (.statementOfFn, afterStatement) },
    { kernel := [(.statementOfAssign, 1)],
      reduction := some (.statementOfAssign, afterStatement) },
    { kernel := [(.statementOfIf, 1)], reduction := some (.statementOfIf, afterStatement) },
    { kernel := [(.statementOfWhile, 1)],
      reduction := some (.statementOfWhile, afterStatement) },
    { kernel := [(.statementOfFor, 1)], reduction := some (.statementOfFor, afterStatement) },
    { kernel := [(.statementOfReturn, 1)],
      reduction := some (.statementOfReturn, afterStatement) },
    { kernel := [(.statementOfExpr, 1)], shifts := [(.mark .semicolon, 41)] },
    { kernel := [(.printArgs, 1), (.printEmpty, 1)], shifts := [(.mark .leftParen, 42)] },
    { kernel := [(.printlnArgs, 1), (.printlnEmpty, 1)], shifts := [(.mark .leftParen, 43)] },
    { kernel := [(.varManyInit, 1), (.varMany, 1), (.varOneInit, 1), (.varOne, 1)],
      shifts := [(.ident, 44)] },
    { kernel := [(.fnParams, 1), (.fnNoParams, 1)], shifts := [(.ident, 45)] },
    { kernel := [(.assign, 1), (.atomCall, 1), (.atomCallEmpty, 1), (.atomName, 1)],
      shifts := [(.mark .leftParen, 47), (.mark .equals, 46)],
      reduction := some (.atomName, afterName) },
    { kernel := [(.ifElse, 1), (.ifOnly, 1)], shifts := [(.mark .leftParen, 48)] } ]

def rowsFrom20 : List Row :=
  [ { kernel := [(.whileMany, 1), (.whileOne, 1)], shifts := [(.mark .leftParen, 49)] },
    { kernel := [(.forIn, 1)], shifts := [(.ident, 50)] },
    { kernel := [(.returnExpr, 1), (.returnEmpty, 1)],
      shifts := (.mark .semicolon, 52) :: exprShifts,
      gotos := (.expr, 51) :: orGotos },
    { kernel := [(.exprOfOr, 1), (.orChain, 1)],
      shifts := [(.mark .doubleBar, 54)],
      reduction := some (.exprOfOr, afterExpr) },
    { kernel := [(.orOfAnd, 1), (.andChain, 1)],
      shifts := [(.mark .doubleAnd, 55)],
      reduction := some (.orOfAnd, afterOr) },
    { kernel := [(.andOfNot, 1)], reduction := some (.andOfNot, afterAnd) },
    { kernel := [(.notOfCmp, 1)], reduction := some (.notOfCmp, afterAnd) },
    { kernel := [(.notBang, 1)], shifts := exprShifts, gotos := (.notExpr, 56) :: cmpGotos },
    { kernel := [(.cmpOfSum, 1), (.cmpRelation, 1), (.cmpIn, 1), (.cmpNotIn, 1), (.sumPlus, 1),
        (.sumMinus, 1)],
      shifts := [(.relation, 57), (.keyword .inWord, 58), (.keyword .notWord, 59)] ++ signShifts,
      reduction := some (.cmpOfSum, afterAnd) },
    { kernel := [(.sumOfTerm, 1), (.termTimes, 1), (.termDivide, 1), (.termModulo, 1)],
      shifts := factorShifts,
      reduction := some (.sumOfTerm, afterSum) },
    { kernel := [(.termOfUnary, 1)], reduction := some (.termOfUnary, afterOperand) },
    { kernel := [(.unaryOfAtom, 1)], reduction := some (.unaryOfAtom, afterOperand) },
    { kernel := [(.unaryMinus, 1)],
      shifts := operandShifts,
      gotos := (.unary, 65) :: atomGotos },
    { kernel := [(.unaryPlus, 1)], shifts := operandShifts, gotos := (.unary, 66) :: atomGotos },
    { kernel := [(.atomNumber, 1)], reduction := some (.atomNumber, afterOperand) },
    { kernel := [(.atomString, 1)], reduction := some (.atomString, afterOperand) },
    { kernel := [(.atomTrue, 1)], reduction := some (.atomTrue, afterOperand) },
    { kernel := [(.atomFalse, 1)], reduction := some (.atomFalse, afterOperand) },
    { kernel := [(.atomVector, 1), (.atomVectorEmpty, 1)],
      shifts := (.mark .rightBracket, 68) :: exprShifts,
      gotos := [(.args, 67), (.expr, 69)] ++ orGotos },
    { kernel := [(.atomParens, 1)], shifts := exprShifts, gotos := (.expr, 70) :: orGotos } ]

def rowsFrom40 : List Row :=
  [ { kernel := [(.statementsMore, 2)], reduction := some (.statementsMore, afterStatement) },
    { kernel := [(.statementOfExpr, 2)], reduction := some (.statementOfExpr, afterStatement) },
    { kernel := [(.printArgs, 2), (.printEmpty, 2)],
      shifts := (.mark .rightParen, 72) :: exprShifts,
      gotos := [(.args, 71), (.expr, 69)] ++ orGotos },
    { kernel := [(.printlnArgs, 2), (.printlnEmpty, 2)],
      shifts := (.mark .rightParen, 74) :: exprShifts,
      gotos := [(.args, 73), (.expr, 69)] ++ orGotos },
    { kernel := [(.varManyInit, 2), (.varMany, 2), (.varOneInit, 2), (.varOne, 2)],
      shifts := [(.mark .semicolon, 77), (.mark .comma, 78), (.mark .equals, 76)],
      gotos := [(.moreNames, 75)] },
    { kernel := [(.fnParams, 2), (.fnNoParams, 2)], shifts := [(.mark .leftParen, 79)] },
    { kernel := [(.assign, 2)], shifts := exprShifts, gotos := (.expr, 80) :: orGotos },
    { kernel := [(.atomCall, 2), (.atomCallEmpty, 2)],
      shifts := (.mark .rightParen, 82) :: exprShifts,
      gotos := [(.args, 81), (.expr, 69)] ++ orGotos },
    { kernel := [(.ifElse, 2), (.ifOnly, 2)],
      shifts := exprShifts,
      gotos := (.expr, 83) :: orGotos },
    { kernel := [(.whileMany, 2), (.whileOne, 2)],
      shifts := exprShifts,
      gotos := (.expr, 84) :: orGotos },
    { kernel := [(.forIn, 2)], shifts := [(.keyword .inWord, 85)] },
    { kernel := [(.returnExpr, 2)], shifts := [(.mark .semicolon, 86)] },
    { kernel := [(.returnEmpty, 2)], reduction := some (.returnEmpty, afterStatement) },
    { kernel := [(.atomCall, 1), (.atomCallEmpty, 1), (.atomName, 1)],
      shifts := [(.mark .leftParen, 47)],
      reduction := some (.atomName, afterOperand) },
    { kernel := [(.orChain, 2)], shifts := exprShifts, gotos := (.andExpr, 87) :: notGotos },
    { kernel := [(.andChain, 2)], shifts := exprShifts, gotos := (.notExpr, 88) :: cmpGotos },
    { kernel := [(.notBang, 2)], reduction := some (.notBang, afterAnd) },
    { kernel := [(.cmpRelation, 2)],
      shifts := operandShifts,
      gotos := (.sumExpr, 89) :: termGotos },
    { kernel := [(.cmpIn, 2)], shifts := operandShifts, gotos := (.sumExpr, 90) :: termGotos },
    { kernel := [(.cmpNotIn, 2)], shifts := [(.keyword .inWord, 91)] } ]

def rowsFrom60 : List Row :=
  [ { kernel := [(.sumPlus, 2)], shifts := operandShifts, gotos := (.term, 92) :: unaryGotos },
    { kernel := [(.sumMinus, 2)], shifts := operandShifts, gotos := (.term, 93) :: unaryGotos },
    { kernel := [(.termTimes, 2)], shifts := operandShifts, gotos := (.unary, 94) :: atomGotos },
    { kernel := [(.termDivide, 2)],
      shifts := operandShifts,
      gotos := (.unary, 95) :: atomGotos },
    { kernel := [(.termModulo, 2)],
      shifts := operandShifts,
      gotos := (.unary, 96) :: atomGotos },
    { kernel := [(.unaryMinus, 2)], reduction := some (.unaryMinus, afterOperand) },
    { kernel := [(.unaryPlus, 2)], reduction := some (.unaryPlus, afterOperand) },
    { kernel := [(.atomVector, 2)], shifts := [(.mark .rightBracket, 97)] },
    { kernel := [(.atomVectorEmpty, 2)], reduction := some (.atomVectorEmpty, afterOperand) },
    { kernel := [(.argsMany, 1), (.argsOne, 1)],
      shifts := [(.mark .comma, 99)],
      reduction := some (.argsOne, afterArgs),
      gotos := [(.moreExprs, 98)] },
    { kernel := [(.atomParens, 2)], shifts := [(.mark .rightParen, 100)] },
    { kernel := [(.printArgs, 3)], shifts := [(.mark .rightParen, 101)] },
    { kernel := [(.printEmpty, 3)], shifts := [(.mark .semicolon, 102)] },
    { kernel := [(.printlnArgs, 3)], shifts := [(.mark .rightParen, 103)] },
    { kernel := [(.printlnEmpty, 3)], shifts := [(.mark .semicolon, 104)] },
    { kernel := [(.varManyInit, 3), (.varMany, 3), (.moreNamesMore, 1)],
      shifts := [(.mark .semicolon, 106), (.mark .comma, 107), (.mark .equals, 105)] },
    { kernel := [(.varOneInit, 3)], shifts := exprShifts, gotos := (.expr, 108) :: orGotos },
    { kernel := [(.varOne, 3)], reduction := some (.varOne, afterStatement) },
    { kernel := [(.moreNamesOne, 1)], shifts := [(.ident, 109)] },
    { kernel := [(.fnParams, 3), (.fnNoParams, 3)],
      shifts := [(.ident, 112), (.mark .rightParen, 111)],
      gotos := [(.params, 110)] } ]

def rowsFrom80 : List Row :=
  [ { kernel := [(.assign, 3)], shifts := [(.mark .semicolon, 113)] },
    { kernel := [(.atomCall, 3)], shifts := [(.mark .rightParen, 114)] },
    { kernel := [(.atomCallEmpty, 3)], reduction := some (.atomCallEmpty, afterOperand) },
    { kernel := [(.ifElse, 3), (.ifOnly, 3)], shifts := [(.mark .rightParen, 115)] },
    { kernel := [(.whileMany, 3), (.whileOne, 3)],
      shifts := [(.mark .rightParen, 117), (.mark .comma, 99)],
      gotos := [(.moreExprs, 116)] },
    { kernel := [(.forIn, 3)], shifts := exprShifts, gotos := (.expr, 118) :: orGotos },
    { kernel := [(.returnExpr, 3)], reduction := some (.returnExpr, afterStatement) },
    { kernel := [(.orChain, 3), (.andChain, 1)],
      shifts := [(.mark .doubleAnd, 55)],
      reduction := some (.orChain, afterOr) },
    { kernel := [(.andChain, 3)], reduction := some (.andChain, afterAnd) },
    { kernel := [(.cmpRelation, 3), (.sumPlus, 1), (.sumMinus, 1)],
      shifts := signShifts,
      reduction := some (.cmpRelation, afterAnd) },
    { kernel := [(.cmpIn, 3), (.sumPlus, 1), (.sumMinus, 1)],
      shifts := signShifts,
      reduction := some (.cmpIn, afterAnd) },
    { kernel := [(.cmpNotIn, 3)],
      shifts := operandShifts,
      gotos := (.sumExpr, 119) :: termGotos },
    { kernel := [(.sumPlus, 3), (.termTimes, 1), (.termDivide, 1), (.termModulo, 1)],
      shifts := factorShifts,
      reduction := some (.sumPlus, afterSum) },
    { kernel := [(.sumMinus, 3), (.termTimes, 1), (.termDivide, 1), (.termModulo, 1)],
      shifts := factorShifts,
      reduction := some (.sumMinus, afterSum) },
    { kernel := [(.termTimes, 3)], reduction := some (.termTimes, afterOperand) },
    { kernel := [(.termDivide, 3)], reduction := some (.termDivide, afterOperand) },
    { kernel := [(.termModulo, 3)], reduction := some (.termModulo, afterOperand) },
    { kernel := [(.atomVector, 3)], reduction := some (.atomVector, afterOperand) },
    { kernel := [(.argsMany, 2), (.moreExprsMore, 1)],
      shifts := [(.mark .comma, 120)],
      reduction := some (.argsMany, afterArgs) },
    { kernel := [(.moreExprsOne, 1)], shifts := exprShifts, gotos := (.expr, 121) :: orGotos } ]

def rowsFrom100 : List Row :=
  [ { kernel := [(.atomParens, 3)], reduction := some (.atomParens, afterOperand) },
    { kernel := [(.printArgs, 4)], shifts := [(.mark .semicolon, 122)] },
    { kernel := [(.printEmpty, 4)], reduction := some (.printEmpty, afterStatement) },
    { kernel := [(.printlnArgs, 4)], shifts := [(.mark .semicolon, 123)] },
    { kernel := [(.printlnEmpty, 4)], reduction := some (.printlnEmpty, afterStatement) },
    { kernel := [(.varManyInit, 4)], shifts := exprShifts, gotos := (.expr, 124) :: orGotos },
    { kernel := [(.varMany, 4)], reduction := some (.varMany, afterStatement) },
    { kernel := [(.moreNamesMore, 2)], shifts := [(.ident, 125)] },
    { kernel := [(.varOneInit, 4)], shifts := [(.mark .semicolon, 126)] },
    { kernel := [(.moreNamesOne, 2)], reduction := some (.moreNamesOne, afterMoreNames) },
    { kernel := [(.fnParams, 4)], shifts := [(.mark .rightParen, 127)] },
    { kernel := [(.fnNoParams, 4)],
      shifts := [(.mark .leftBrace, 129)],
      gotos := [(.block, 128)] },
    { kernel := [(.paramsMany, 1), (.paramsOne, 1)],
      shifts := [(.mark .comma, 78)],
      reduction := some (.paramsOne, afterParams),
      gotos := [(.moreNames, 130)] },
    { kernel := [(.assign, 4)], reduction := some (.assign, afterStatement) },
    { kernel := [(.atomCall, 4)], reduction := some (.atomCall, afterOperand) },
    { kernel := [(.ifElse, 4), (.ifOnly, 4)],
      shifts := [(.mark .leftBrace, 129)],
      gotos := [(.block, 131)] },
    { kernel := [(.whileMany, 4), (.moreExprsMore, 1)],
      shifts := [(.mark .rightParen, 132), (.mark .comma, 120)] },
    { kernel := [(.whileOne, 4)],
      shifts := [(.mark .leftBrace, 129)],
      gotos := [(.block, 133)] },
    { kernel := [(.forIn, 4)], shifts := [(.mark .leftBrace, 129)], gotos := [(.block, 134)] },
    { kernel := [(.cmpNotIn, 4), (.sumPlus, 1), (.sumMinus, 1)],
      shifts := signShifts,
      reduction := some (.cmpNotIn, afterAnd) } ]

def rowsFrom120 : List Row :=
  [ { kernel := [(.moreExprsMore, 2)], shifts := exprShifts, gotos := (.expr, 135) :: orGotos },
    { kernel := [(.moreExprsOne, 2)], reduction := some (.moreExprsOne, afterMoreExprs) },
    { kernel := [(.printArgs, 5)], reduction := some (.printArgs, afterStatement) },
    { kernel := [(.printlnArgs, 5)], reduction := some (.printlnArgs, afterStatement) },
    { kernel := [(.varManyInit, 5)], shifts := [(.mark .semicolon, 136)] },
    { kernel := [(.moreNamesMore, 3)], reduction := some (.moreNamesMore, afterMoreNames) },
    { kernel := [(.varOneInit, 5)], reduction := some (.varOneInit, afterStatement) },
    { kernel := [(.fnParams, 5)],
      shifts := [(.mark .leftBrace, 129)],
      gotos := [(.block, 137)] },
    { kernel := [(.fnNoParams, 5)], reduction := some (.fnNoParams, afterStatement) },
    { kernel := [(.blockStatements, 1), (.blockEmpty, 1)],
      shifts := (.mark .rightBrace, 139) :: statementShifts,
      gotos := [(.statement, 3), (.statements, 138)] ++ statementGotos },
    { kernel := [(.paramsMany, 2), (.moreNamesMore, 1)],
      shifts := [(.mark .comma, 107)],
      reduction := some (.paramsMany, afterParams) },
    { kernel := [(.ifElse, 5), (.ifOnly, 5)],
      shifts := [(.keyword .elseWord, 140)],
      reduction := some (.ifOnly, afterStatement) },
    { kernel := [(.whileMany, 5)],
      shifts := [(.mark .leftBrace, 129)],
      gotos := [(.block, 141)] },
    { kernel := [(.whileOne, 5)], reduction := some (.whileOne, afterStatement) },
    { kernel := [(.forIn, 5)], reduction := some (.forIn, afterStatement) },
    { kernel := [(.moreExprsMore, 3)], reduction := some (.moreExprsMore, afterMoreExprs) },
    { kernel := [(.varManyInit, 6)], reduction := some (.varManyInit, afterStatement) },
    { kernel := [(.fnParams, 6)], reduction := some (.fnParams, afterStatement) },
    { kernel := [(.blockStatements, 2), (.statementsMore, 1)],
      shifts := (.mark .rightBrace, 142) :: statementShifts,
      gotos := (.statement, 40) :: statementGotos },
    { kernel := [(.blockEmpty, 2)], reduction := some (.blockEmpty, afterBlock) } ]

def rowsFrom140 : List Row :=
  [ { kernel := [(.ifElse, 6)],
      shifts := [(.keyword .ifWord, 19), (.mark .leftBrace, 129)],
      gotos := [(.ifElse, 145), (.elseBranch, 143), (.block, 144)] },
    { kernel := [(.whileMany, 6)], reduction := some (.whileMany, afterStatement) },
    { kernel := [(.blockStatements, 3)], reduction := some (.blockStatements, afterBlock) },
    { kernel := [(.ifElse, 7)], reduction := some (.ifElse, afterStatement) },
    { kernel := [(.elseBlock, 1)], reduction := some (.elseBlock, afterStatement) },
    { kernel := [(.elseIf, 1)], reduction := some (.elseIf, afterStatement) } ]

/-- The rows of all states, in order. -/
def rows : List Row :=
  rowsFrom0 ++ rowsFrom20 ++ rowsFrom40 ++ rowsFrom60 ++
    rowsFrom80 ++ rowsFrom100 ++ rowsFrom120 ++ rowsFrom140

/-- The row of a state; states outside the table do nothing. -/
def row (state : State) : Row :=
  rows.getD state {}

def start : State := 0

/-! ## Looking things up -/

/-- What a state does on a terminal. -/
inductive Action where
  | shift (target : State)
  | reduce (production : Production)
  deriving DecidableEq, Repr

def Row.action? (row : Row) (terminal : Terminal) : Option Action :=
  match row.shifts.lookup terminal with
  | some target => some (.shift target)
  | none =>
      match row.reduction with
      | some (production, calls) =>
          if calls.contains terminal then some (.reduce production) else none
      | none => none

def action? (state : State) (terminal : Terminal) : Option Action :=
  (row state).action? terminal

/-- Where a state goes after a reduction to a nonterminal. -/
def goto? (state : State) (nonterminal : Nonterminal) : Option State :=
  (row state).gotos.lookup nonterminal

def allows (state : State) (terminal : Terminal) : Bool :=
  (action? state terminal).isSome

end Scriptlet.Automaton
