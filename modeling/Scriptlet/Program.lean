import Scriptlet.Evaluation.Evaluate
import Scriptlet.Parsing.Parse

/-!
# Programs

Programs as text: the tree of a source text, and running it. A program of a single statement has
the value of that statement; any other program has the value of its body.
-/

namespace Scriptlet

namespace Program

/-- The tree of a source text. -/
def tree (source : String) : Except SyntaxError Node :=
  match Parsed.ofText source with
  | .ok parsed => .ok (parsed.tree .compact)
  | .error error => .error error

/-- A body of exactly one statement stands for that statement. -/
def unwrapped : Node → Node
  | .branch (.kind .body) [statement] _ => statement
  | node => node

/-- Runs a source text in a context. Nothing is written unless the whole text is a program. -/
def run (source : String) (context : Context) : Except SyntaxError (Outcome Value) :=
  match tree source with
  | .ok node => .ok (node |> unwrapped |>.evaluate context)
  | .error error => .error error

end Program

end Scriptlet
