import Scriptlet.Console.Buffer
import Scriptlet.Console.Switch
import Scriptlet.Console.Transcript

/-!
# The interactive console

The interactive console. Its state is two switches. A line that starts with a slash is a command;
anything else is submitted as a program. The loop is a function of what the prompts yield and ends
with the end of the input.
-/

namespace Scriptlet

/-- The state of a console: whether trees are shown, and the setting for showing the frames of a
failure. -/
structure Console where
  showTree : Bool
  tracing : Switch.Setting
  deriving DecidableEq, Repr

namespace Console

/-- A fresh console in surroundings with the given setting. -/
def start (tracing : Switch.Setting) : Console :=
  ⟨false, tracing⟩

/-! ## Commands -/

def perform (console : Console) (argument : String) : Line.Command → Console × Transcript
  | .clear => (console, .empty)
  | .traceback =>
      match Switch.toggle argument console.tracing.isOn with
      | some on =>
          ({ console with tracing := Switch.Setting.ofPosition on },
            .out ("Python traceback: " ++ Switch.positionName on ++ "\n"))
      | none => (console, .err "Usage: /py-traceback [on|off]\n")
  | .tree =>
      match Switch.toggle argument console.showTree with
      | some on =>
          ({ console with showTree := on },
            .out ("Tree display: " ++ Switch.positionName on ++ "\n"))
      | none => (console, .err "Usage: /tree [on|off]\n")

/-- Handles a line that starts with a slash; other lines are no commands. -/
def command? (console : Console) (line : String) : Option (Console × Transcript) :=
  let stripped := Text.trim line
  if stripped.toList.head? = some '/' then
    let (word, argument) := Text.partWord stripped
    match Line.Command.ofWord? word with
    | some command => some (console.perform argument command)
    | none => some (console, .err ("Unknown command: " ++ word ++ "\n"))
  else
    none

/-! ## Submissions -/

/-- Runs one submission. The state of the console only decides what is shown. -/
def submit (console : Console) (text : String) : Presentation :=
  let tracing := console.tracing.isOn
  if console.showTree then
    (Presentation.ofTree tracing .own text).followedBy (Presentation.ofRun tracing .own text)
  else
    Presentation.ofRun tracing .own text

/-- One turn of the loop: what the user entered is a command, a program, or nothing. -/
def turn (console : Console) (entered : String) : Console × Presentation :=
  let text := Line.visible entered
  if (Text.trim text).isEmpty then
    (console, ⟨.empty, .done⟩)
  else
    match console.command? text with
    | some (next, transcript) => (next, ⟨transcript, .done⟩)
    | none => (console, console.submit text)

/-! ## The loop -/

/-- What a prompt yields. -/
inductive Prompted where
  | text (entered : String)
  | interrupt
  | endOfInput
  deriving DecidableEq, Repr

/-- Where a session stands. -/
inductive Standing where
  /-- It waits at the next prompt. -/
  | awaiting (console : Console)
  /-- It ended with the input. -/
  | ended
  | crashed (crash : Crash)
  deriving DecidableEq, Repr

/-- The session on what the prompts yield, one after the other. -/
def serve (console : Console) : List Prompted → Transcript × Standing
  | [] => (.empty, .awaiting console)
  | .endOfInput :: _ => (.out "\n", .ended)
  | .interrupt :: results =>
      let (transcript, standing) := console.serve results
      (.out "KeyboardInterrupt\n" ++ transcript, standing)
  | .text entered :: results =>
      let (next, presentation) := console.turn entered
      match presentation.verdict with
      | .crashed crash => (presentation.transcript, .crashed crash)
      | _ =>
          let (transcript, standing) := next.serve results
          (presentation.transcript ++ transcript, standing)

def greeting : String :=
  "vnm repl - Ctrl-D to exit, / for commands\n"

/-- A whole interactive session. -/
def interact (tracing : Switch.Setting) (results : List Prompted) : Transcript × Standing :=
  let (transcript, standing) := (start tracing).serve results
  (.out greeting ++ transcript, standing)

end Console

end Scriptlet
