import Scriptlet.Files.Directory
import Scriptlet.Parsing.Diagnosis
import Scriptlet.Program
import Scriptlet.Tree.Listing

/-!
# Transcripts

What a user sees of a program: its output, the echo of its value, the outline of its tree, and
reports of its errors. The interactive console and the command line share these.
-/

namespace Scriptlet

/-- The texts written to the two output streams. -/
structure Transcript where
  stdout : String
  stderr : String
  deriving DecidableEq, Repr

namespace Transcript

def empty : Transcript := ⟨"", ""⟩

def out (text : String) : Transcript := ⟨text, ""⟩

def err (text : String) : Transcript := ⟨"", text⟩

def append (first second : Transcript) : Transcript :=
  ⟨first.stdout ++ second.stdout, first.stderr ++ second.stderr⟩

instance : Append Transcript := ⟨append⟩

/-- The report of an error, with the frames of the failure when they are asked for. -/
def ofError (tracing : Bool) (message : String) : Transcript :=
  err ("Error: " ++ message ++ "\n" ++
    if tracing then "\nPython traceback:\n<traceback>\n" else "")

end Transcript

/-- A failure that is not reported but ends whatever is running. -/
inductive Crash where
  | fault (fault : Fault)
  | listing (fault : ListingFault)
  | file (fault : FileFault)
  /-- A failure in the making of a parser, or in a parser, by its name and message. -/
  | frontEnd (name message : String)
  deriving DecidableEq, Repr

namespace Crash

def message : Crash → String
  | fault cause => cause.message
  | listing cause => cause.message
  | file cause => cause.message
  | frontEnd _ text => text

end Crash

/-- How showing something of a program ends. -/
inductive Verdict where
  | done
  /-- An error was reported. -/
  | reported
  | crashed (crash : Crash)
  deriving DecidableEq, Repr

/-- A transcript and how it ends. -/
structure Presentation where
  transcript : Transcript
  verdict : Verdict
  deriving DecidableEq, Repr

/-! ## Front ends -/

/-- Something that the rules of another grammar make instead of a tree of nodes. It is known by what
its outline and its run show, with or without the frames of a failure. -/
structure ForeignTree where
  outlined (tracing : Bool) : Presentation
  ran (tracing : Bool) : Presentation

/-- Why a source text has no tree of nodes. -/
inductive Rejection where
  /-- A syntax error, which is reported. -/
  | syntaxError (message : String)
  | crash (crash : Crash)
  | foreign (tree : ForeignTree)

/-- A front end: the tree of a source text, or why there is none. -/
abbrev FrontEnd := String → Except Rejection Node

/-- The front end of the language's own grammar. -/
def FrontEnd.own : FrontEnd := fun source =>
  match Program.tree source with
  | .ok node => .ok node
  | .error error => .error (.syntaxError (error.message source))

namespace Presentation

/-- Goes on with another presentation if this one is done. -/
def followedBy (first second : Presentation) : Presentation :=
  match first.verdict with
  | .done => ⟨first.transcript ++ second.transcript, second.verdict⟩
  | _ => first

/-- What a rejection shows; a foreign tree is shown as it is asked for. -/
def ofRejection
    (tracing : Bool) (shown : ForeignTree → Bool → Presentation) : Rejection → Presentation
  | .syntaxError message => ⟨.ofError tracing message, .reported⟩
  | .crash crash => ⟨.empty, .crashed crash⟩
  | .foreign tree => shown tree tracing

def ofTree (tracing : Bool) (frontEnd : FrontEnd) (source : String) : Presentation :=
  match frontEnd source with
  | .error rejection => ofRejection tracing ForeignTree.outlined rejection
  | .ok node =>
      match node.outline Node.defaultIndent with
      | .ok text => ⟨.out text, .done⟩
      | .error fault => ⟨.empty, .crashed (.listing fault)⟩

/-- The line that echoes a value; absent values are not echoed. -/
def echoLine (value : Value) : String :=
  if value.isAbsent then "" else value.echo ++ "\n"

def ofOutcome (tracing : Bool) (outcome : Outcome Value) : Presentation :=
  match outcome.result with
  | .ok value => ⟨.out (outcome.written ++ echoLine value), .done⟩
  | .error fault =>
      if fault.isReported then
        ⟨.out outcome.written ++ .ofError tracing fault.message, .reported⟩
      else
        ⟨.out outcome.written, .crashed (.fault fault)⟩

/-- The output of a program and the echo of its value. -/
def ofRun (tracing : Bool) (frontEnd : FrontEnd) (source : String) : Presentation :=
  match frontEnd source with
  | .error rejection => ofRejection tracing ForeignTree.ran rejection
  | .ok node => ofOutcome tracing (node |> Program.unwrapped |>.evaluate none)

end Presentation

end Scriptlet
