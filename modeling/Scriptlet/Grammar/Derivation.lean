import Scriptlet.Grammar.Production

/-!
# Derivations

Derivations of the grammar. A derivation is indexed by the symbol it derives, so that one whose
children do not fit its production cannot be written down.
-/

namespace Scriptlet

mutual

/-- A derivation of one symbol: a lexeme of a terminal, or a production with its parts. -/
inductive Derivation : Symbol → Type where
  | leaf (terminal : Terminal) (lexeme : String) : Derivation (.terminal terminal)
  | node (production : Production) (parts : Derivations production.rhs) :
      Derivation (.nonterminal production.lhs)

/-- Derivations of a sequence of symbols, in order. -/
inductive Derivations : List Symbol → Type where
  | nil : Derivations []
  | cons {symbol : Symbol} {symbols : List Symbol}
      (first : Derivation symbol) (rest : Derivations symbols) : Derivations (symbol :: symbols)

end

/-- A derivation of a symbol is one of any symbol equal to it. -/
def Derivation.cast
    {symbol other : Symbol}
    (same : symbol = other)
    (derivation : Derivation symbol) :
    Derivation other :=
  same ▸ derivation

abbrev ProgramDerivation := Derivation (.nonterminal .program)

/-- A terminal together with the text that was read as it. -/
abbrev Lexeme := Terminal × String

mutual

/-- The lexemes of a derivation, from left to right. -/
def Derivation.lexemes {symbol : Symbol} : Derivation symbol → List Lexeme
  | .leaf terminal lexeme => [(terminal, lexeme)]
  | .node _ parts => parts.lexemes

def Derivations.lexemes {symbols : List Symbol} : Derivations symbols → List Lexeme
  | .nil => []
  | .cons first rest => first.lexemes ++ rest.lexemes

end

end Scriptlet
