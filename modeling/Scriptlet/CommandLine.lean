import Scriptlet.Console.Session

/-!
# The command line

The command line: arguments, the place a program comes from, and the outcome of the whole. The
surroundings are a value, so a run is a function of its arguments and of them.
-/

namespace Scriptlet.CommandLine

/-! ## Arguments -/

/-- What the arguments of a run ask for. -/
structure Options where
  showTree : Bool := false
  grammar : Option String := none
  source : Option String := none
  deriving DecidableEq, Repr

/-- A run that the arguments ask for. -/
inductive Request where
  | program (options : Options)
  | interactive
  | grammarWithoutPath
  | unexpected (argument : String)
  deriving DecidableEq, Repr

/-- The path that an argument gives to the grammar option in one piece. -/
def grammarPath? (argument : String) : Option String :=
  let option := "--grammar=".toList
  if option.isPrefixOf argument.toList then
    some (String.ofList (argument.toList.drop option.length))
  else
    none

def Request.ofArguments (options : Options) : List String → Request
  | [] => .program options
  | argument :: rest =>
      if argument = "--tree" then
        ofArguments { options with showTree := true } rest
      else if argument = "--repl" then
        .interactive
      else if argument = "--grammar" then
        match rest with
        | [] => .grammarWithoutPath
        | path :: others => ofArguments { options with grammar := some path } others
      else
        match grammarPath? argument with
        | some path => ofArguments { options with grammar := some path } rest
        | none =>
            match options.source with
            | none => ofArguments { options with source := some argument } rest
            | some _ => .unexpected argument

/-! ## Surroundings -/

/-- What a run finds around it: its standard input, what paths lead to, the setting for showing
the frames of a failure, what the prompts of a console will yield, and the front end that a parser
generator makes of the text of a grammar. -/
structure Surroundings where
  input : ByteArray
  entry : String → Entry
  tracing : Switch.Setting
  prompted : List Console.Prompted
  frontEnd : String → FrontEnd

/-- How a run ends. -/
inductive Ending where
  | exit (status : Nat)
  | quit (message : String)
  | crash (crash : Crash)
  /-- It has not ended but waits at a prompt. -/
  | awaiting
  deriving DecidableEq, Repr

/-- How a run ends whose session stands there. -/
def Ending.ofStanding : Console.Standing → Ending
  | .awaiting _ => .awaiting
  | .ended => .exit 0
  | .crashed cause => .crash cause

/-- What a run shows and how it ends. -/
structure Report where
  ending : Ending
  transcript : Transcript
  deriving DecidableEq, Repr

/-! ## The source -/

/-- Whether an argument, or the lack of one, stands for the standard input. -/
def meansInput : Option String → Bool
  | none => true
  | some argument => argument.isEmpty || argument == "-"

def inputSource (input : ByteArray) : Except Ending String :=
  match Text.Encoding.readText input with
  | .error fault => .error (.crash (.file (.encoding fault)))
  | .ok text => if text.isEmpty then .error (.quit "No input provided on stdin") else .ok text

/-- The source that an argument names: a readable path stands for its content, and anything that
leads nowhere stands for itself. -/
def namedSource (entry : String → Entry) (argument : String) : Except Ending String :=
  if argument.toList.contains '\x00' then
    .ok argument
  else
    let path := Path.normalize argument
    match entry path with
    | .missing | .belowFile => .ok argument
    | found =>
        match found.text path with
        | .ok text => .ok text
        | .error fault => .error (.crash (.file fault))

def source (surroundings : Surroundings) (argument : Option String) : Except Ending String :=
  match argument with
  | none => inputSource surroundings.input
  | some named =>
      if meansInput argument then inputSource surroundings.input
      else namedSource surroundings.entry named

/-! ## The grammar -/

/-- The front end for the grammar that an argument names: that of the text that the path leads to,
and without an argument, or with an empty one, that of the language's own grammar. -/
def frontEnd (surroundings : Surroundings) : Option String → Except Crash FrontEnd
  | none => .ok .own
  | some argument =>
      if argument.isEmpty then
        .ok .own
      else if argument.toList.contains '\x00' then
        .error (.file .nulInPath)
      else
        let path := Path.normalize argument
        match (surroundings.entry path).text path with
        | .ok grammar => .ok (surroundings.frontEnd grammar)
        | .error fault => .error (.file fault)

/-! ## Runs -/

/-- The report of a presentation: an error that was reported makes the exit status one. -/
def Report.ofPresentation (presentation : Presentation) : Report :=
  match presentation.verdict with
  | .done => ⟨.exit 0, presentation.transcript⟩
  | .reported => ⟨.exit 1, presentation.transcript⟩
  | .crashed crash => ⟨.crash crash, presentation.transcript⟩

def runProgram (surroundings : Surroundings) (options : Options) : Report :=
  match source surroundings options.source with
  | .error ending => ⟨ending, .empty⟩
  | .ok text =>
      match frontEnd surroundings options.grammar with
      | .error crash => ⟨.crash crash, .empty⟩
      | .ok found =>
          let tracing := surroundings.tracing.isOn
          if options.showTree then .ofPresentation (Presentation.ofTree tracing found text)
          else .ofPresentation (Presentation.ofRun tracing found text)

/-- The whole command line. -/
def run (surroundings : Surroundings) (arguments : List String) : Report :=
  match Request.ofArguments {} arguments with
  | .program options => runProgram surroundings options
  | .interactive =>
      let (transcript, standing) :=
        Console.interact surroundings.tracing surroundings.prompted
      ⟨.ofStanding standing, transcript⟩
  | .grammarWithoutPath => ⟨.quit "--grammar flag requires a path", .empty⟩
  | .unexpected argument => ⟨.quit ("Unexpected argument: " ++ argument), .empty⟩

end Scriptlet.CommandLine
