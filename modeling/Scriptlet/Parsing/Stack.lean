import Scriptlet.Grammar.Automaton
import Scriptlet.Grammar.Derivation

/-!
# The stack

The stack of the automaton and its moves. A frame holds a derivation together with the state that
was entered when it was pushed. Before a token is shifted the stack is settled: it is reduced as
long as the token calls for reductions. Settling ends because every reduction lowers the weight
of the stack.
-/

namespace Scriptlet

/-! ## Weights -/

def Nonterminal.weight : Nonterminal → Nat
  | .program => 0
  | .statements | .params | .args | .elseBranch | .moreNames | .moreExprs => 1
  | .statement | .block | .expr => 2
  | .orExpr | .printing | .printingLine | .varDecl | .fnDecl | .assign | .ifElse | .whileLoop
  | .forLoop | .returning => 3
  | .andExpr => 4
  | .notExpr => 5
  | .cmpExpr => 6
  | .sumExpr => 7
  | .term => 8
  | .unary => 9
  | .atom => 10

def Symbol.weight : Symbol → Nat
  | .terminal _ => 11
  | .nonterminal derived => derived.weight

def symbolsWeight : List Symbol → Nat
  | [] => 0
  | symbol :: symbols => symbol.weight + symbolsWeight symbols

/-- Every production but those of a whole program is heavier on its right side. -/
theorem Production.weight_lhs_lt
    (production : Production)
    (notProgram : production.lhs ≠ .program) :
    production.lhs.weight < symbolsWeight production.rhs := by
  cases production <;> first | exact absurd rfl notProgram | decide

/-! ## Frames -/

/-- A derived symbol on the stack and the state entered with it. -/
structure Frame where
  state : Automaton.State
  symbol : Symbol
  derivation : Derivation symbol

namespace Stack

/-- The current state: that of the uppermost frame. -/
def state : List Frame → Automaton.State
  | [] => Automaton.start
  | frame :: _ => frame.state

def weight (stack : List Frame) : Nat :=
  symbolsWeight (stack.map Frame.symbol)

/-- Takes the derivations of the given symbols from the top of a stack, the last symbol
uppermost. -/
def take : (symbols : List Symbol) → List Frame → Option (Derivations symbols × List Frame)
  | [], stack => some (.nil, stack)
  | symbol :: symbols, stack =>
      match take symbols stack with
      | some (rest, frame :: below) =>
          if fits : frame.symbol = symbol then
            some (.cons (frame.derivation.cast fits) rest, below)
          else
            none
      | _ => none

theorem weight_take
    {symbols : List Symbol} {stack below : List Frame} {parts : Derivations symbols}
    (taken : take symbols stack = some (parts, below)) :
    weight stack = symbolsWeight symbols + weight below := by
  induction symbols generalizing below with
  | nil =>
      cases taken
      simp [symbolsWeight]
  | cons symbol symbols inductionHypothesis =>
      unfold take at taken
      split at taken
      · next rest frame deeper takenRest =>
          split at taken
          · next fits =>
              cases taken
              rw [inductionHypothesis takenRest]
              simp only [weight, List.map_cons, symbolsWeight, fits]
              omega
          · cases taken
      · cases taken

/-! ## Settling -/

/-- What becomes of a stack when a terminal is about to be shifted. -/
inductive Settled where
  /-- The terminal is shifted from this stack into the given state. -/
  | shift (target : Automaton.State) (stack : List Frame)
  /-- The stack was a whole program. -/
  | accept (program : ProgramDerivation)
  /-- After these reductions the state has no action on the terminal. -/
  | reject (stack : List Frame)
  /-- The table called for a reduction that the stack does not allow. -/
  | stuck

/-- One move toward shifting a terminal: another stack, or the end of settling. -/
inductive Move where
  | reduced (stack : List Frame)
  | settled (result : Settled)

def reduce (production : Production) (stack : List Frame) : Move :=
  match take production.rhs stack with
  | none => .settled .stuck
  | some (parts, below) =>
      let derivation := Derivation.node production parts
      if isProgram : production.lhs = .program then
        .settled (.accept (derivation.cast (congrArg Symbol.nonterminal isProgram)))
      else
        match Automaton.goto? (state below) production.lhs with
        | none => .settled .stuck
        | some target =>
            .reduced (⟨target, .nonterminal production.lhs, derivation⟩ :: below)

def move (terminal : Terminal) (stack : List Frame) : Move :=
  match Automaton.action? (state stack) terminal with
  | none => .settled (.reject stack)
  | some (.shift target) => .settled (.shift target stack)
  | some (.reduce production) => reduce production stack

theorem weight_reduce_lt
    {production : Production} {stack next : List Frame}
    (reduced : reduce production stack = .reduced next) :
    weight next < weight stack := by
  unfold reduce at reduced
  split at reduced
  · cases reduced
  · next parts below taken =>
      dsimp only at reduced
      split at reduced
      · cases reduced
      · next notProgram =>
          split at reduced
          · cases reduced
          · cases reduced
            have lighter := production.weight_lhs_lt notProgram
            rw [weight_take taken]
            simpa [weight, symbolsWeight, Symbol.weight] using lighter

theorem weight_move_lt
    {terminal : Terminal} {stack next : List Frame}
    (reduced : move terminal stack = .reduced next) :
    weight next < weight stack := by
  unfold move at reduced
  split at reduced
  · cases reduced
  · cases reduced
  · exact weight_reduce_lt reduced

/-- Reduces a stack until the terminal can be shifted, or the program is complete, or the state
has no action on the terminal. -/
def settle (terminal : Terminal) (stack : List Frame) : Settled :=
  match _ : move terminal stack with
  | .settled result => result
  | .reduced next => settle terminal next
termination_by weight stack
decreasing_by exact weight_move_lt (by assumption)

/-- Whether a terminal, or the end of the input, is possible after a stack. -/
def admits (stack : List Frame) (terminal : Terminal) : Bool :=
  match settle terminal stack with
  | .shift .. | .accept _ => true
  | .reject _ | .stuck => false

/-- The terminals that are possible after a stack. -/
def possible (stack : List Frame) : List Terminal :=
  Terminal.all.filter (admits stack)

end Stack

end Scriptlet
