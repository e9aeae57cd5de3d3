import Scriptlet.CommandLine

/-!
# The program

The outer layer: it fetches what a run may look at, calls the command line and writes the report.
At a terminal it reads whole lines, so the cursor stands at the end of what was entered whenever
Enter is pressed. There is no parser generator here, so a grammar in a file is read and refused.
-/

namespace Scriptlet.Main

/-- The name of the setting for showing the frames of a failure. -/
def tracingSetting : String := "VNM_DEBUG_PY_TRACE"

/-- Whether a system error says that a component of a path is a file. The code is given with
either sign. -/
def isNotDirectory (code : UInt32) : Bool :=
  code == 20 || code == 0 - 20

def fetchEntry (path : String) : IO Entry := do
  match ← (IO.FS.readBinFile path).toBaseIO with
  | .ok content => return .file content
  | .error (.noFileOrDirectory ..) => return .missing
  | .error (.inappropriateType _ code _) =>
      return if isNotDirectory code then .belowFile else .directory
  | .error (.invalidArgument ..) => return .nameTooLong
  | .error (.permissionDenied ..) => return .denied
  | .error other => throw other

/-- The arguments of a run that may be paths. -/
def pathArguments (options : CommandLine.Options) : List String :=
  (options.source.toList ++ options.grammar.toList).filter fun argument =>
    !(argument.isEmpty || argument.toList.contains '\x00')

def fetchEntries (options : CommandLine.Options) : IO (List (String × Entry)) :=
  (pathArguments options).mapM fun argument => do
    let path := Path.normalize argument
    return (path, ← fetchEntry path)

def write (transcript : Transcript) : IO Unit := do
  IO.print transcript.stdout
  (← IO.getStdout).flush
  IO.eprint transcript.stderr

/-- Writes how a run ended, and gives its exit status. -/
def conclude : CommandLine.Ending → IO UInt32
  | .exit status => return UInt32.ofNat status
  | .quit message => do
      IO.eprintln message
      return 1
  | .crash crash => do
      IO.eprintln crash.message
      return 1
  | .awaiting => return 0

/-- The front end of any grammar in a file. -/
def noFrontEnd : FrontEnd := fun _ =>
  .error (.crash (.frontEnd "GrammarError" "there is no parser generator"))

def runProgram (options : CommandLine.Options) (tracing : Switch.Setting) : IO UInt32 := do
  let entries ← fetchEntries options
  let input ←
    if CommandLine.meansInput options.source then (← IO.getStdin).readBinToEnd
    else pure ByteArray.empty
  let report :=
    CommandLine.runProgram
      ⟨input, fun path => (entries.lookup path).getD .missing, tracing, [], fun _ => noFrontEnd⟩
      options
  write report.transcript
  conclude report.ending

/-- The interactive loop on the lines of a terminal. -/
partial def converse (console : Console) (buffer : Console.Buffer) : IO UInt32 := do
  IO.print (if buffer.text.isEmpty then ">>> " else "... ")
  (← IO.getStdout).flush
  let line ← (← IO.getStdin).getLine
  if line.isEmpty then
    IO.println ""
    return 0
  let typed := buffer.insert (String.ofList (line.toList.filter (· != '\n')))
  match typed.enter? with
  | some longer => converse console longer
  | none =>
      let (next, presentation) := console.turn typed.text
      write presentation.transcript
      match presentation.verdict with
      | .crashed crash => conclude (.crash crash)
      | _ => converse next .empty

end Scriptlet.Main

open Scriptlet in
def main (arguments : List String) : IO UInt32 := do
  let tracing ← IO.getEnv Main.tracingSetting
  match CommandLine.Request.ofArguments {} arguments with
  | .program options => Main.runProgram options tracing
  | .interactive => do
      IO.print Console.greeting
      Main.converse (Console.start tracing) .empty
  | _ => do
      let report :=
        CommandLine.run
          ⟨ByteArray.empty, fun _ => .missing, tracing, [], fun _ => Main.noFrontEnd⟩ arguments
      Main.write report.transcript
      Main.conclude report.ending
