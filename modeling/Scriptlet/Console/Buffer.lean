import Scriptlet.Console.Line
import Scriptlet.Text.Blank

/-!
# The buffer of the prompt

What is being entered at the prompt, and the Enter key. Enter submits a command, and a program in
which no brace is open. Otherwise it begins a new line at the cursor, indented by the braces that
are open. All other editing is left to the terminal.
-/

namespace Scriptlet.Console

/-- The text that is being entered, parted at the cursor. -/
structure Buffer where
  before : String
  after : String
  deriving DecidableEq, Repr

/-- Whether Enter submits a text: commands always, programs when no brace is open. -/
def submits (text : String) : Bool :=
  (Text.trim text).toList.head? == some '/' || Line.depth text ≤ 0

/-- A line break with four blanks behind it for every brace that is open in a text. -/
def newLine (text : String) : String :=
  "\n" ++ String.ofList (List.replicate (4 * (Line.depth text).toNat) ' ')

namespace Buffer

def empty : Buffer :=
  ⟨"", ""⟩

def text (buffer : Buffer) : String :=
  buffer.before ++ buffer.after

/-- Puts a text in at the cursor, which moves behind it. -/
def insert (buffer : Buffer) (text : String) : Buffer :=
  ⟨buffer.before ++ text, buffer.after⟩

/-- The buffer after Enter, or none if Enter submits its text. -/
def enter? (buffer : Buffer) : Option Buffer :=
  if submits buffer.text then none else some (buffer.insert (newLine buffer.text))

end Buffer

end Scriptlet.Console
