/-!
# Kinds of nodes

The kinds of tree nodes, the order relations that comparison nodes carry, and the facts about a
kind that the rest of the library looks up: its name, its fixed number of children if it has one,
and the role it plays in evaluation.
-/

namespace Scriptlet

/-- An order relation between two integers. -/
inductive Relation where
  | less
  | lessOrEqual
  | greater
  | greaterOrEqual
  | equal
  | different
  deriving DecidableEq, Repr

/-- What a node of a tree stands for. -/
inductive Kind where
  | body
  | clause
  | print
  | println
  | varDecl
  | fnDecl
  | identList
  | fnCall
  | booleanCall
  | expList
  | conditionList
  | returnValue
  | assign
  | conditional
  | forLoop
  | whileLoop
  | sum
  | mul
  | div
  | mod
  | neg
  | pos
  | disjunction
  | conjunction
  | inversion
  | comparison
  | marker (relation : Relation)
  | vecConst
  | isIn
  | notIn
  | idVec
  | idNum
  | idBool
  | number
  | string
  | trueLiteral
  | falseLiteral
  | null
  deriving DecidableEq, Repr

namespace Relation

/-- Every relation, in the order of the tables. -/
def all : List Relation :=
  [less, lessOrEqual, greater, greaterOrEqual, equal, different]

/-- The operator that writes the relation in a program. -/
def symbol : Relation → String
  | less => "<"
  | lessOrEqual => "<="
  | greater => ">"
  | greaterOrEqual => ">="
  | equal => "=="
  | different => "!="

/-- The two-letter name of the relation. -/
def name : Relation → String
  | less => "lt"
  | lessOrEqual => "le"
  | greater => "gt"
  | greaterOrEqual => "ge"
  | equal => "eq"
  | different => "ne"

/-- The relation's name in capitals, as listings show it. -/
def title : Relation → String
  | less => "LT"
  | lessOrEqual => "LE"
  | greater => "GT"
  | greaterOrEqual => "GE"
  | equal => "EQ"
  | different => "NE"

def ofSymbol? (text : String) : Option Relation :=
  all.find? (·.symbol == text)

def holds : Relation → Int → Int → Bool
  | less, left, right => left < right
  | lessOrEqual, left, right => left ≤ right
  | greater, left, right => right < left
  | greaterOrEqual, left, right => right ≤ left
  | equal, left, right => left == right
  | different, left, right => left != right

end Relation

/-- How a kind of node is evaluated. -/
inductive Role where
  /-- Children are visited in order; the node yields the context. -/
  | passThrough
  /-- Children are evaluated without context and written; `lineBreak` ends the line. -/
  | write (lineBreak : Bool)
  /-- The payload is read as an integer. -/
  | number
  /-- The payload is read as a text. -/
  | text
  /-- The node stands for a truth value. -/
  | truth (value : Bool)
  /-- Children are added. -/
  | sum
  /-- Two children are multiplied. -/
  | product
  /-- The first of two children is divided by the second. -/
  | quotient
  /-- The remainder of dividing the first of two children by the second. -/
  | remainder
  /-- The first child is negated. -/
  | negation
  /-- The first child is passed on. -/
  | identity
  /-- True at the first true child. -/
  | any
  /-- False at the first false child. -/
  | all
  /-- The first child's truth value is inverted. -/
  | inversion
  /-- The outer two of three children are compared. -/
  | comparison
  /-- The first child chooses between the others. -/
  | choice
  /-- Children are not looked at; the node yields the absent value. -/
  | absent
  deriving DecidableEq, Repr

namespace Kind

/-- Every kind, in the order of the tables. -/
def all : List Kind :=
  [body, clause, print, println, varDecl, fnDecl, identList, fnCall, booleanCall, expList,
    conditionList, returnValue, assign, conditional, forLoop, whileLoop, sum, mul, div, mod, neg,
    pos, disjunction, conjunction, inversion, comparison] ++ Relation.all.map marker ++
  [vecConst, isIn, notIn, idVec, idNum, idBool, number, string, trueLiteral, falseLiteral, null]

/-- The name of a kind in listings and messages. -/
def name : Kind → String
  | body => "body"
  | clause => "clause"
  | print => "print"
  | println => "println"
  | varDecl => "var_decl"
  | fnDecl => "fn_decl"
  | identList => "ident_list"
  | fnCall => "fn_call"
  | booleanCall => "boolean_call"
  | expList => "exp_list"
  | conditionList => "condition_list"
  | returnValue => "return"
  | assign => "assign"
  | conditional => "if"
  | forLoop => "for"
  | whileLoop => "while"
  | sum => "sum"
  | mul => "mul"
  | div => "div"
  | mod => "mod"
  | neg => "neg"
  | pos => "pos"
  | disjunction => "or"
  | conjunction => "and"
  | inversion => "not"
  | comparison => "comparison"
  | marker relation => relation.name
  | vecConst => "vec_const"
  | isIn => "in"
  | notIn => "notin"
  | idVec => "idvec"
  | idNum => "idnum"
  | idBool => "idbool"
  | number => "number"
  | string => "string"
  | trueLiteral => "true"
  | falseLiteral => "false"
  | null => "null"

def ofName? (text : String) : Option Kind :=
  all.find? (·.name == text)

/-- The kinds with a fixed number of children, in the order of the tables. -/
def fixedArities : List (Kind × Nat) :=
  [(mul, 2), (div, 2), (mod, 2), (neg, 1), (pos, 1), (inversion, 1), (comparison, 3),
    (trueLiteral, 0), (falseLiteral, 0), (null, 0)]

/-- The fixed number of children of a kind, if it has one. -/
def arity? (kind : Kind) : Option Nat :=
  fixedArities.lookup kind

/-- How nodes of a kind are evaluated. Declarations, calls, loops, assignments, vectors and
membership tests only pass through: nothing is stored, invoked, repeated or looked up. -/
def role : Kind → Role
  | print => .write false
  | println => .write true
  | conditional => .choice
  | sum => .sum
  | mul => .product
  | div => .quotient
  | mod => .remainder
  | neg => .negation
  | pos => .identity
  | disjunction => .any
  | conjunction => .all
  | inversion => .inversion
  | comparison => .comparison
  | number => .number
  | string => .text
  | trueLiteral => .truth true
  | falseLiteral => .truth false
  | null | marker _ => .absent
  | _ => .passThrough

/-- The kinds that only pass through, sorted by name. -/
def passThroughKinds : List Kind :=
  (all.filter (·.role = .passThrough)).mergeSort fun left right => !(right.name < left.name)

end Kind

end Scriptlet
