/-!
# Terminals

The terminals of the grammar: four classes of lexemes, thirteen reserved words, the marks, and the
end of the input. Every terminal has a name, and the two doubled marks are shown in messages by
their spelling in place of it.
-/

namespace Scriptlet

/-- A reserved word. -/
inductive Keyword where
  | printWord
  | printlnWord
  | varWord
  | fnWord
  | elseWord
  | ifWord
  | whileWord
  | forWord
  | inWord
  | returnWord
  | trueWord
  | falseWord
  | notWord
  deriving DecidableEq, Repr

/-- A mark: punctuation or an operator with one fixed spelling. -/
inductive Mark where
  | semicolon
  | leftParen
  | rightParen
  | comma
  | equals
  | leftBrace
  | rightBrace
  | doubleBar
  | doubleAnd
  | bang
  | plus
  | minus
  | star
  | slash
  | percent
  | leftBracket
  | rightBracket
  deriving DecidableEq, Repr

/-- A terminal of the grammar. -/
inductive Terminal where
  | ident
  | number
  | string
  | relation
  | keyword (keyword : Keyword)
  | mark (mark : Mark)
  | endOfInput
  deriving DecidableEq, Repr

namespace Keyword

/-- Every reserved word, a longer one before its own beginning. -/
def all : List Keyword :=
  [printlnWord, printWord, varWord, fnWord, elseWord, ifWord, whileWord, forWord, inWord,
    returnWord, trueWord, falseWord, notWord]

def spelling : Keyword → List Char
  | printWord => ['p', 'r', 'i', 'n', 't']
  | printlnWord => ['p', 'r', 'i', 'n', 't', 'l', 'n']
  | varWord => ['v', 'a', 'r']
  | fnWord => ['f', 'n']
  | elseWord => ['e', 'l', 's', 'e']
  | ifWord => ['i', 'f']
  | whileWord => ['w', 'h', 'i', 'l', 'e']
  | forWord => ['f', 'o', 'r']
  | inWord => ['i', 'n']
  | returnWord => ['r', 'e', 't', 'u', 'r', 'n']
  | trueWord => ['t', 'r', 'u', 'e']
  | falseWord => ['f', 'a', 'l', 's', 'e']
  | notWord => ['n', 'o', 't']

def name : Keyword → String
  | printWord => "PRINT"
  | printlnWord => "PRINTLN"
  | varWord => "VAR"
  | fnWord => "FN"
  | elseWord => "ELSE"
  | ifWord => "IF"
  | whileWord => "WHILE"
  | forWord => "FOR"
  | inWord => "IN"
  | returnWord => "RETURN"
  | trueWord => "TRUE"
  | falseWord => "FALSE"
  | notWord => "NOT"

theorem spelling_ne_nil (word : Keyword) : word.spelling ≠ [] := by
  cases word <;> simp [spelling]

end Keyword

namespace Mark

def all : List Mark :=
  [doubleBar, doubleAnd, semicolon, leftParen, rightParen, comma, equals, leftBrace, rightBrace,
    bang, plus, minus, star, slash, percent, leftBracket, rightBracket]

def spelling : Mark → List Char
  | semicolon => [';']
  | leftParen => ['(']
  | rightParen => [')']
  | comma => [',']
  | equals => ['=']
  | leftBrace => ['{']
  | rightBrace => ['}']
  | doubleBar => ['|', '|']
  | doubleAnd => ['&', '&']
  | bang => ['!']
  | plus => ['+']
  | minus => ['-']
  | star => ['*']
  | slash => ['/']
  | percent => ['%']
  | leftBracket => ['[']
  | rightBracket => [']']

def name : Mark → String
  | semicolon => "SEMICOLON"
  | leftParen => "LPAR"
  | rightParen => "RPAR"
  | comma => "COMMA"
  | equals => "EQUAL"
  | leftBrace => "LBRACE"
  | rightBrace => "RBRACE"
  | doubleBar => "__ANON_0"
  | doubleAnd => "__ANON_1"
  | bang => "BANG"
  | plus => "PLUS"
  | minus => "MINUS"
  | star => "STAR"
  | slash => "SLASH"
  | percent => "PERCENT"
  | leftBracket => "LSQB"
  | rightBracket => "RSQB"

/-- The name that messages show; marks without a name of their own show their spelling. -/
def shown : Mark → String
  | doubleBar => "\"||\""
  | doubleAnd => "\"&&\""
  | mark => mark.name

theorem spelling_ne_nil (sign : Mark) : sign.spelling ≠ [] := by
  cases sign <;> simp [spelling]

end Mark

namespace Terminal

/-- Every terminal. Those before another in this list are also tried before it when a lexeme is
read: whole words before reserved words, and relations before the marks they begin with. -/
def all : List Terminal :=
  [ident, number, string, relation] ++ Keyword.all.map keyword ++ Mark.all.map mark ++
    [endOfInput]

def name : Terminal → String
  | ident => "IDENT"
  | number => "NUMBER"
  | string => "STRING"
  | relation => "CMP_OP"
  | keyword word => word.name
  | mark sign => sign.name
  | endOfInput => "$END"

/-- The name of a terminal in messages about the text itself. -/
def shown : Terminal → String
  | mark sign => sign.shown
  | terminal => terminal.name

def isKeyword : Terminal → Bool
  | keyword _ => true
  | _ => false

end Terminal

end Scriptlet
