import Scriptlet.Grammar.Terminal

/-!
# Productions

The context-free grammar of the language. Optional parts are written as two productions and
repetitions as left-recursive lists, so every production is a plain sequence of symbols. The
layers of `expr` give the operators their precedence, from `||` at the bottom to the signs at the
top; all binary operators but the relations associate to the left.
-/

namespace Scriptlet

/-- A nonterminal of the grammar. -/
inductive Nonterminal where
  | program
  | statement
  | printing
  | printingLine
  | varDecl
  | fnDecl
  | params
  | assign
  | ifElse
  | elseBranch
  | whileLoop
  | forLoop
  | returning
  | block
  | args
  | expr
  | orExpr
  | andExpr
  | notExpr
  | cmpExpr
  | sumExpr
  | term
  | unary
  | atom
  | statements
  | moreNames
  | moreExprs
  deriving DecidableEq, Repr

/-- A symbol on the right of a production. -/
inductive Symbol where
  | terminal (terminal : Terminal)
  | nonterminal (nonterminal : Nonterminal)
  deriving DecidableEq, Repr

/-- A production, named for its left side and what sets it apart. -/
inductive Production where
  | program
  | programEmpty
  | statementOfPrint
  | statementOfPrintln
  | statementOfVar
  | statementOfFn
  | statementOfAssign
  | statementOfIf
  | statementOfWhile
  | statementOfFor
  | statementOfReturn
  | statementOfExpr
  | printArgs
  | printEmpty
  | printlnArgs
  | printlnEmpty
  | varManyInit
  | varMany
  | varOneInit
  | varOne
  | fnParams
  | fnNoParams
  | paramsMany
  | paramsOne
  | assign
  | ifElse
  | ifOnly
  | elseBlock
  | elseIf
  | whileMany
  | whileOne
  | forIn
  | returnExpr
  | returnEmpty
  | blockStatements
  | blockEmpty
  | argsMany
  | argsOne
  | exprOfOr
  | orOfAnd
  | orChain
  | andOfNot
  | andChain
  | notOfCmp
  | notBang
  | cmpOfSum
  | cmpRelation
  | cmpIn
  | cmpNotIn
  | sumOfTerm
  | sumPlus
  | sumMinus
  | termOfUnary
  | termTimes
  | termDivide
  | termModulo
  | unaryOfAtom
  | unaryMinus
  | unaryPlus
  | atomNumber
  | atomString
  | atomTrue
  | atomFalse
  | atomCall
  | atomCallEmpty
  | atomName
  | atomVector
  | atomVectorEmpty
  | atomParens
  | statementsOne
  | statementsMore
  | moreNamesOne
  | moreNamesMore
  | moreExprsOne
  | moreExprsMore
  deriving DecidableEq, Repr

namespace Production

def all : List Production :=
  [.program, .programEmpty, .statementOfPrint, .statementOfPrintln, .statementOfVar, .statementOfFn,
    .statementOfAssign, .statementOfIf, .statementOfWhile, .statementOfFor, .statementOfReturn,
    .statementOfExpr, .printArgs, .printEmpty, .printlnArgs, .printlnEmpty, .varManyInit, .varMany,
    .varOneInit, .varOne, .fnParams, .fnNoParams, .paramsMany, .paramsOne, .assign, .ifElse,
    .ifOnly, .elseBlock, .elseIf, .whileMany, .whileOne, .forIn, .returnExpr, .returnEmpty,
    .blockStatements, .blockEmpty, .argsMany, .argsOne, .exprOfOr, .orOfAnd, .orChain, .andOfNot,
    .andChain, .notOfCmp, .notBang, .cmpOfSum, .cmpRelation, .cmpIn, .cmpNotIn, .sumOfTerm,
    .sumPlus, .sumMinus, .termOfUnary, .termTimes, .termDivide, .termModulo, .unaryOfAtom,
    .unaryMinus, .unaryPlus, .atomNumber, .atomString, .atomTrue, .atomFalse, .atomCall,
    .atomCallEmpty, .atomName, .atomVector, .atomVectorEmpty, .atomParens, .statementsOne,
    .statementsMore, .moreNamesOne, .moreNamesMore, .moreExprsOne, .moreExprsMore]

def lhs : Production → Nonterminal
  | .program | .programEmpty => .program
  | .statementOfPrint | .statementOfPrintln | .statementOfVar | .statementOfFn
  | .statementOfAssign | .statementOfIf | .statementOfWhile | .statementOfFor
  | .statementOfReturn | .statementOfExpr => .statement
  | .printArgs | .printEmpty => .printing
  | .printlnArgs | .printlnEmpty => .printingLine
  | .varManyInit | .varMany | .varOneInit | .varOne => .varDecl
  | .fnParams | .fnNoParams => .fnDecl
  | .paramsMany | .paramsOne => .params
  | .assign => .assign
  | .ifElse | .ifOnly => .ifElse
  | .elseBlock | .elseIf => .elseBranch
  | .whileMany | .whileOne => .whileLoop
  | .forIn => .forLoop
  | .returnExpr | .returnEmpty => .returning
  | .blockStatements | .blockEmpty => .block
  | .argsMany | .argsOne => .args
  | .exprOfOr => .expr
  | .orOfAnd | .orChain => .orExpr
  | .andOfNot | .andChain => .andExpr
  | .notOfCmp | .notBang => .notExpr
  | .cmpOfSum | .cmpRelation | .cmpIn | .cmpNotIn => .cmpExpr
  | .sumOfTerm | .sumPlus | .sumMinus => .sumExpr
  | .termOfUnary | .termTimes | .termDivide | .termModulo => .term
  | .unaryOfAtom | .unaryMinus | .unaryPlus => .unary
  | .atomNumber | .atomString | .atomTrue | .atomFalse | .atomCall | .atomCallEmpty
  | .atomName | .atomVector | .atomVectorEmpty | .atomParens => .atom
  | .statementsOne | .statementsMore => .statements
  | .moreNamesOne | .moreNamesMore => .moreNames
  | .moreExprsOne | .moreExprsMore => .moreExprs

def rhs : Production → List Symbol
  | .program => [.nonterminal .statements]
  | .programEmpty => []
  | .statementOfPrint => [.nonterminal .printing]
  | .statementOfPrintln => [.nonterminal .printingLine]
  | .statementOfVar => [.nonterminal .varDecl]
  | .statementOfFn => [.nonterminal .fnDecl]
  | .statementOfAssign => [.nonterminal .assign]
  | .statementOfIf => [.nonterminal .ifElse]
  | .statementOfWhile => [.nonterminal .whileLoop]
  | .statementOfFor => [.nonterminal .forLoop]
  | .statementOfReturn => [.nonterminal .returning]
  | .statementOfExpr => [.nonterminal .expr, .terminal (.mark .semicolon)]
  | .printArgs =>
      [.terminal (.keyword .printWord), .terminal (.mark .leftParen), .nonterminal .args,
       .terminal (.mark .rightParen), .terminal (.mark .semicolon)]
  | .printEmpty =>
      [.terminal (.keyword .printWord), .terminal (.mark .leftParen), .terminal (.mark .rightParen),
       .terminal (.mark .semicolon)]
  | .printlnArgs =>
      [.terminal (.keyword .printlnWord), .terminal (.mark .leftParen), .nonterminal .args,
       .terminal (.mark .rightParen), .terminal (.mark .semicolon)]
  | .printlnEmpty =>
      [.terminal (.keyword .printlnWord), .terminal (.mark .leftParen),
       .terminal (.mark .rightParen), .terminal (.mark .semicolon)]
  | .varManyInit =>
      [.terminal (.keyword .varWord), .terminal .ident, .nonterminal .moreNames,
       .terminal (.mark .equals), .nonterminal .expr, .terminal (.mark .semicolon)]
  | .varMany =>
      [.terminal (.keyword .varWord), .terminal .ident, .nonterminal .moreNames,
       .terminal (.mark .semicolon)]
  | .varOneInit =>
      [.terminal (.keyword .varWord), .terminal .ident, .terminal (.mark .equals),
       .nonterminal .expr, .terminal (.mark .semicolon)]
  | .varOne => [.terminal (.keyword .varWord), .terminal .ident, .terminal (.mark .semicolon)]
  | .fnParams =>
      [.terminal (.keyword .fnWord), .terminal .ident, .terminal (.mark .leftParen),
       .nonterminal .params, .terminal (.mark .rightParen), .nonterminal .block]
  | .fnNoParams =>
      [.terminal (.keyword .fnWord), .terminal .ident, .terminal (.mark .leftParen),
       .terminal (.mark .rightParen), .nonterminal .block]
  | .paramsMany => [.terminal .ident, .nonterminal .moreNames]
  | .paramsOne => [.terminal .ident]
  | .assign =>
      [.terminal .ident, .terminal (.mark .equals), .nonterminal .expr,
       .terminal (.mark .semicolon)]
  | .ifElse =>
      [.terminal (.keyword .ifWord), .terminal (.mark .leftParen), .nonterminal .expr,
       .terminal (.mark .rightParen), .nonterminal .block, .terminal (.keyword .elseWord),
       .nonterminal .elseBranch]
  | .ifOnly =>
      [.terminal (.keyword .ifWord), .terminal (.mark .leftParen), .nonterminal .expr,
       .terminal (.mark .rightParen), .nonterminal .block]
  | .elseBlock => [.nonterminal .block]
  | .elseIf => [.nonterminal .ifElse]
  | .whileMany =>
      [.terminal (.keyword .whileWord), .terminal (.mark .leftParen), .nonterminal .expr,
       .nonterminal .moreExprs, .terminal (.mark .rightParen), .nonterminal .block]
  | .whileOne =>
      [.terminal (.keyword .whileWord), .terminal (.mark .leftParen), .nonterminal .expr,
       .terminal (.mark .rightParen), .nonterminal .block]
  | .forIn =>
      [.terminal (.keyword .forWord), .terminal .ident, .terminal (.keyword .inWord),
       .nonterminal .expr, .nonterminal .block]
  | .returnExpr =>
      [.terminal (.keyword .returnWord), .nonterminal .expr, .terminal (.mark .semicolon)]
  | .returnEmpty => [.terminal (.keyword .returnWord), .terminal (.mark .semicolon)]
  | .blockStatements =>
      [.terminal (.mark .leftBrace), .nonterminal .statements, .terminal (.mark .rightBrace)]
  | .blockEmpty => [.terminal (.mark .leftBrace), .terminal (.mark .rightBrace)]
  | .argsMany => [.nonterminal .expr, .nonterminal .moreExprs]
  | .argsOne => [.nonterminal .expr]
  | .exprOfOr => [.nonterminal .orExpr]
  | .orOfAnd => [.nonterminal .andExpr]
  | .orChain => [.nonterminal .orExpr, .terminal (.mark .doubleBar), .nonterminal .andExpr]
  | .andOfNot => [.nonterminal .notExpr]
  | .andChain => [.nonterminal .andExpr, .terminal (.mark .doubleAnd), .nonterminal .notExpr]
  | .notOfCmp => [.nonterminal .cmpExpr]
  | .notBang => [.terminal (.mark .bang), .nonterminal .notExpr]
  | .cmpOfSum => [.nonterminal .sumExpr]
  | .cmpRelation => [.nonterminal .sumExpr, .terminal .relation, .nonterminal .sumExpr]
  | .cmpIn => [.nonterminal .sumExpr, .terminal (.keyword .inWord), .nonterminal .sumExpr]
  | .cmpNotIn =>
      [.nonterminal .sumExpr, .terminal (.keyword .notWord), .terminal (.keyword .inWord),
       .nonterminal .sumExpr]
  | .sumOfTerm => [.nonterminal .term]
  | .sumPlus => [.nonterminal .sumExpr, .terminal (.mark .plus), .nonterminal .term]
  | .sumMinus => [.nonterminal .sumExpr, .terminal (.mark .minus), .nonterminal .term]
  | .termOfUnary => [.nonterminal .unary]
  | .termTimes => [.nonterminal .term, .terminal (.mark .star), .nonterminal .unary]
  | .termDivide => [.nonterminal .term, .terminal (.mark .slash), .nonterminal .unary]
  | .termModulo => [.nonterminal .term, .terminal (.mark .percent), .nonterminal .unary]
  | .unaryOfAtom => [.nonterminal .atom]
  | .unaryMinus => [.terminal (.mark .minus), .nonterminal .unary]
  | .unaryPlus => [.terminal (.mark .plus), .nonterminal .unary]
  | .atomNumber => [.terminal .number]
  | .atomString => [.terminal .string]
  | .atomTrue => [.terminal (.keyword .trueWord)]
  | .atomFalse => [.terminal (.keyword .falseWord)]
  | .atomCall =>
      [.terminal .ident, .terminal (.mark .leftParen), .nonterminal .args,
       .terminal (.mark .rightParen)]
  | .atomCallEmpty =>
      [.terminal .ident, .terminal (.mark .leftParen), .terminal (.mark .rightParen)]
  | .atomName => [.terminal .ident]
  | .atomVector =>
      [.terminal (.mark .leftBracket), .nonterminal .args, .terminal (.mark .rightBracket)]
  | .atomVectorEmpty => [.terminal (.mark .leftBracket), .terminal (.mark .rightBracket)]
  | .atomParens => [.terminal (.mark .leftParen), .nonterminal .expr, .terminal (.mark .rightParen)]
  | .statementsOne => [.nonterminal .statement]
  | .statementsMore => [.nonterminal .statements, .nonterminal .statement]
  | .moreNamesOne => [.terminal (.mark .comma), .terminal .ident]
  | .moreNamesMore => [.nonterminal .moreNames, .terminal (.mark .comma), .terminal .ident]
  | .moreExprsOne => [.terminal (.mark .comma), .nonterminal .expr]
  | .moreExprsMore => [.nonterminal .moreExprs, .terminal (.mark .comma), .nonterminal .expr]

end Production

end Scriptlet
