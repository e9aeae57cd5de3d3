import Scriptlet.Parsing.Parse
import Scriptlet.Parsing.Position
import Scriptlet.Text.Quoted

/-!
# Diagnosis of syntax errors

The wording of syntax errors. A message tells what was found and where, then what was expected,
sorted by name, and then the token before it if reading a token failed.
-/

namespace Scriptlet

namespace Token

def shown (token : Token) : String :=
  "Token(" ++ Text.quote token.terminal.name ++ ", " ++ Text.quote token.text ++ ")"

end Token

namespace SyntaxError

def place : SyntaxError → Nat
  | misplaced token _ _ => token.start
  | refused token _ => token.start
  | unreadable _ place _ _ => place
  | stuck => 0

def position (source : String) (error : SyntaxError) : Position :=
  Position.ofOffset source.toList error.place

/-- The list of what was expected, one name to a line. -/
def expectation (names : List String) : String :=
  let sorted := names.mergeSort fun left right => !(right < left)
  "Expected one of: \n\t* " ++ "\n\t* ".intercalate sorted ++ "\n"

def unexpected (source : String) (token : Token) : String :=
  let position := Position.ofOffset source.toList token.start
  "Unexpected token " ++ token.shown ++ " at line " ++ toString position.line ++ ", column " ++
    toString position.column ++ ".\n"

def message (source : String) : SyntaxError → String
  | misplaced token previous expected =>
      unexpected source token ++ expectation (expected.map Terminal.shown) ++
        "Previous tokens: [" ++ ((previous.map Token.shown).getD "None") ++ "]\n"
  | refused token expected =>
      unexpected source token ++ expectation (expected.map Terminal.name)
  | unreadable character place previous expected =>
      let position := Position.ofOffset source.toList place
      "No terminal matches '" ++ String.singleton character ++
        "' in the current parser context, at line " ++ toString position.line ++ " col " ++
        toString position.column ++ "\n\n" ++ Position.context source.toList place ++
        expectation (expected.map Terminal.shown) ++
        match previous with
        | none => ""
        | some token => "\nPrevious tokens: " ++ token.shown ++ "\n"
  | stuck => "The parsing table is inconsistent"

end SyntaxError

end Scriptlet
