import Scriptlet.Grammar.Lowering
import Scriptlet.Parsing.Stack
import Scriptlet.Parsing.Token

/-!
# Parsing

Parsing source text. Reading tokens and moving the automaton go hand in hand, because the state
decides which terminals may be read next. The result keeps the tokens besides the derivation.
-/

namespace Scriptlet

/-- Why a text is not a program. -/
inductive SyntaxError where
  /-- The state allows no terminal that starts here, but the grammar has one that does. -/
  | misplaced (token : Token) (previous : Option Token) (expected : List Terminal)
  /-- The token was allowed, but the reductions it called for led to a state without it. -/
  | refused (token : Token) (expected : List Terminal)
  /-- No terminal of the grammar starts here. -/
  | unreadable (character : Char) (place : Nat) (previous : Option Token)
      (expected : List Terminal)
  /-- The table of the automaton contradicts itself. -/
  | stuck
  deriving DecidableEq, Repr

/-- A parsed program: its tokens in order and its derivation. -/
structure Parsed where
  tokens : List Token
  derivation : ProgramDerivation

namespace Parsing

/-- The terminals that a message lists for a state: those with an action, without the end of the
input, and without the reserved words when a name may stand there. -/
def listed (state : Automaton.State) : List Terminal :=
  Terminal.all.filter fun terminal =>
    Automaton.allows state terminal && terminal != .endOfInput &&
      !(Automaton.allows state .ident && terminal.isKeyword)

/-- The error at a place where no allowed terminal starts. Whether any terminal of the grammar
starts there decides which error it is. -/
def misreading
    (stack : List Frame)
    (previous : Option Token)
    (place : Nat)
    (character : Char)
    (text : List Char) :
    SyntaxError :=
  match Lexing.scan (fun _ => true) text with
  | some (terminal, lexeme) =>
      .misplaced ⟨terminal, String.ofList lexeme, place⟩ previous (Stack.possible stack)
  | none => .unreadable character place previous (listed (Stack.state stack))

/-- The token that stands for the end of the input, placed at the start of the last token. -/
def endToken (previous : Option Token) : Token :=
  ⟨.endOfInput, "", (previous.map Token.start).getD 0⟩

/-- The result of ending the input with a stack and the tokens read, the last one first. -/
def finish (stack : List Frame) (read : List Token) : Except SyntaxError Parsed :=
  match Stack.settle .endOfInput stack with
  | .accept program => .ok ⟨read.reverse, program⟩
  | .reject reduced => .error (.refused (endToken read.head?) (Stack.possible reduced))
  | .shift .. | .stuck => .error .stuck

/-- Parses the text from a place on, given the stack and the tokens read, the last one first. -/
def parseFrom
    (stack : List Frame)
    (read : List Token)
    (place : Nat)
    (text : List Char) :
    Except SyntaxError Parsed :=
  let here := place + (Lexing.gap text).length
  match _ : Lexing.afterGap text with
  | [] => finish stack read
  | character :: rest =>
      match _ : Lexing.scan (Automaton.allows (Stack.state stack)) (character :: rest) with
      | none => .error (misreading stack read.head? here character (character :: rest))
      | some (terminal, lexeme) =>
          let token : Token := ⟨terminal, String.ofList lexeme, here⟩
          match Stack.settle terminal stack with
          | .shift target settled =>
              parseFrom (⟨target, .terminal terminal, .leaf terminal token.text⟩ :: settled)
                (token :: read) (here + lexeme.length) ((character :: rest).drop lexeme.length)
          | .reject reduced => .error (.refused token (Stack.possible reduced))
          | .accept _ | .stuck => .error .stuck
termination_by text.length
decreasing_by
  exact Lexing.length_drop_lexeme_lt (by assumption) (by assumption)

end Parsing

def Parsed.ofText (source : String) : Except SyntaxError Parsed :=
  Parsing.parseFrom [] [] 0 source.toList

/-- The tree of a parsed program, in the given shaping. -/
def Parsed.tree (shaping : Shaping) (parsed : Parsed) : Node :=
  parsed.derivation.lower shaping

end Scriptlet
