/-!
# Lines at the prompt

Editing at the prompt: the characters that are dropped from input, the depth of open braces that
decides whether Enter continues the input, and the completion of command names.
-/

namespace Scriptlet.Line

/-! ## Invisible characters -/

/-- Zero-width characters, the byte order mark, the no-break space and the carriage return. -/
def isInvisible (c : Char) : Bool :=
  c == '\u200b' || c == '\u200c' || c == '\u200d' || c == '\ufeff' || c == '\u00a0' || c == '\r'

def visible (text : String) : String :=
  String.ofList (text.toList.filter (!isInvisible ·))

/-! ## Braces -/

/-- The number of open braces minus the number of closed ones, outside quoted stretches;
`quoted` says whether the text starts inside one. -/
def depthFrom : (quoted : Bool) → List Char → Int
  | _, [] => 0
  | quoted, '"' :: rest => depthFrom (!quoted) rest
  | true, _ :: rest => depthFrom true rest
  | false, '{' :: rest => depthFrom false rest + 1
  | false, '}' :: rest => depthFrom false rest - 1
  | false, _ :: rest => depthFrom false rest

/-- The depth of open braces; a positive depth means that the input is unfinished. -/
def depth (text : String) : Int :=
  depthFrom false text.toList

/-! ## Commands -/

/-- A command of the console. -/
inductive Command where
  | clear
  | traceback
  | tree
  deriving DecidableEq, Repr

namespace Command

/-- Every command, in the order of completion. -/
def all : List Command := [clear, traceback, tree]

def word : Command → String
  | clear => "/clear"
  | traceback => "/py-traceback"
  | tree => "/tree"

def help : Command → String
  | clear => "Clear the terminal screen"
  | traceback => "Toggle Python traceback on errors"
  | tree => "Toggle printing the AST before evaluating"

def ofWord? (text : String) : Option Command :=
  all.find? (·.word == text)

end Command

/-- A command that completes the text before the cursor, and how much of that text it replaces. -/
structure Completion where
  command : Command
  replaced : Nat
  deriving DecidableEq, Repr

/-- The commands that complete the text before the cursor. -/
def completions (before : String) : List Completion :=
  let letters := before.toList
  if letters.head? = some '/' then
    (Command.all.filter fun command => letters.isPrefixOf command.word.toList).map
      (⟨·, letters.length⟩)
  else
    []

end Scriptlet.Line
