import Scriptlet.CommandLine
import Scriptlet.Proofs.Console.Turns
import Scriptlet.Proofs.Evaluation.Echo
import Scriptlet.Proofs.Files.Names
import Scriptlet.Proofs.Text.Encoding

/-!
# Programs as arguments

An argument that leads to no file is a program itself, and it does what the same text on the
standard input does. It is looked up as a path before, though, and the file system may refuse that:
such an argument ends the run although it was never meant as a name. In a directory whose files are
all known, texts of up to 255 bytes are never refused, and longer ones always are if they have no
slash.
-/

namespace Scriptlet

/-- Whether a path leads to a file or a directory. -/
def Entry.isPresent : Entry → Bool
  | directory | file _ => true
  | missing | belowFile | nameTooLong | denied => false

namespace CommandLine

/-! ## Arguments -/

/-- Whether an argument is an option wherever it stands. -/
def isOption (argument : String) : Bool :=
  argument == "--tree" || argument == "--repl" || argument == "--grammar" ||
    (grammarPath? argument).isSome

/-- The arguments that ask for the tree of a program, or for running it. -/
def treeArguments (shown : Bool) : List String :=
  if shown then ["--tree"] else []

/-- An argument that is no option names the source. -/
theorem ofArguments_singleton
    {argument : String} (options : Options)
    (notOption : isOption argument = false)
    (unset : options.source = none) :
    Request.ofArguments options [argument] =
      .program { options with source := some argument } := by
  simp only [isOption, Bool.or_eq_false_iff, beq_eq_false_iff_ne, Option.isSome_eq_false_iff,
    Option.isNone_iff_eq_none] at notOption
  obtain ⟨⟨⟨notTree, notRepl⟩, notGrammar⟩, noPath⟩ := notOption
  simp [Request.ofArguments, notTree, notRepl, notGrammar, noPath, unset]

theorem run_treeArguments
    (surroundings : Surroundings) (shown : Bool) {argument : String}
    (notOption : isOption argument = false) :
    run surroundings (treeArguments shown ++ [argument]) =
      runProgram surroundings { showTree := shown, source := some argument } := by
  have requested :
      Request.ofArguments {} (treeArguments shown ++ [argument]) =
        .program { showTree := shown, source := some argument } := by
    cases shown with
    | true => exact ofArguments_singleton { showTree := true } notOption rfl
    | false => exact ofArguments_singleton {} notOption rfl
  rw [run, requested]

/-! ## Reports of programs -/

/-- The report of a program whose text was found: its tree, or what running it shows. -/
def Report.ofText (tracing shown : Bool) (text : String) : Report :=
  .ofPresentation
    (if shown then Presentation.ofTree tracing .own text
      else Presentation.ofRun tracing .own text)

theorem runProgram_of_source
    {surroundings : Surroundings} {argument : Option String} {text : String} (shown : Bool)
    (found : source surroundings argument = .ok text) :
    runProgram surroundings { showTree := shown, source := argument } =
      Report.ofText surroundings.tracing.isOn shown text := by
  rw [runProgram, found]
  cases shown <;> rfl

theorem ending_ofPresentation_ne_file
    {presentation : Presentation} {fault : FileFault}
    (notFile : presentation.verdict ≠ .crashed (.file fault)) :
    (Report.ofPresentation presentation).ending ≠ .crash (.file fault) := by
  unfold Report.ofPresentation
  split
  · nofun
  · nofun
  · next crash crashed =>
      rintro ⟨⟩
      exact notFile crashed

/-- Once its text is found, no file makes a program crash. -/
theorem ending_ofText_ne_file
    (tracing shown : Bool) (text : String) (fault : FileFault) :
    (Report.ofText tracing shown text).ending ≠ .crash (.file fault) := by
  refine ending_ofPresentation_ne_file ?_
  cases shown with
  | true =>
      rw [if_pos rfl, Presentation.ofTree, FrontEnd.own]
      cases Program.tree text with
      | error error => simp [Presentation.ofRejection]
      | ok tree =>
          dsimp only
          split <;> simp
  | false =>
      rw [if_neg Bool.false_ne_true, Presentation.ofRun_own]
      cases Program.run text none with
      | error error => simp
      | ok outcome =>
          dsimp only
          unfold Presentation.ofOutcome
          split
          · simp
          · split <;> simp

/-! ## Programs on the standard input -/

/-- The report of a run that gets a text on its standard input. -/
def inputReport (surroundings : Surroundings) (shown : Bool) (text : String) : Report :=
  run { surroundings with input := text.toUTF8 } (treeArguments shown ++ ["-"])

theorem inputReport_eq
    (surroundings : Surroundings) (shown : Bool) {text : String}
    (nonempty : text ≠ "")
    (noReturn : '\r' ∉ text.toList) :
    inputReport surroundings shown text =
      Report.ofText surroundings.tracing.isOn shown text := by
  have found : source { surroundings with input := text.toUTF8 } (some "-") = .ok text := by
    rw [source, if_pos (by decide), inputSource, Text.Encoding.readText_toUTF8 noReturn]
    simp [nonempty]
  rw [inputReport, run_treeArguments _ shown (by decide), runProgram_of_source shown found]

/-! ## Programs as arguments -/

/-- The report of a run that gets a text as its argument. -/
def literalReport (surroundings : Surroundings) (shown : Bool) (text : String) : Report :=
  run surroundings (treeArguments shown ++ [text])

section

variable {surroundings : Surroundings} (shown : Bool) {text : String}
  (nonempty : text ≠ "")
  (noNul : '\x00' ∉ text.toList)
  (notDash : text ≠ "-")

include nonempty noNul notDash

theorem source_eq_lookup :
    source surroundings (some text) =
      match surroundings.entry (Path.normalize text) with
      | .missing | .belowFile => .ok text
      | found =>
          match found.text (Path.normalize text) with
          | .ok text => .ok text
          | .error fault => .error (.crash (.file fault)) := by
  have named : meansInput (some text) = false := by simp [meansInput, nonempty, notDash]
  have isPath : text.toList.contains '\x00' = false := by simpa using noNul
  rw [source, named, namedSource, isPath]
  rfl

/-- A text that leads nowhere is the program. -/
theorem literalReport_of_absent
    (notOption : isOption text = false)
    (absent : (surroundings.entry (Path.normalize text)).isPresent = false)
    (notRefused : (surroundings.entry (Path.normalize text)).isRefused = false) :
    literalReport surroundings shown text =
      Report.ofText surroundings.tracing.isOn shown text := by
  have found : source surroundings (some text) = .ok text := by
    rw [source_eq_lookup nonempty noNul notDash]
    cases leads : surroundings.entry (Path.normalize text) with
    | missing => rfl
    | belowFile => rfl
    | nameTooLong => simp [leads, Entry.isRefused] at notRefused
    | denied => simp [leads, Entry.isRefused] at notRefused
    | directory => simp [leads, Entry.isPresent] at absent
    | file content => simp [leads, Entry.isPresent] at absent
  rw [literalReport, run_treeArguments _ shown notOption, runProgram_of_source shown found]

/-- A text that is refused as a name ends the run before anything is parsed. -/
theorem literalReport_of_refused
    (notOption : isOption text = false)
    (refused : (surroundings.entry (Path.normalize text)).isRefused = true) :
    ∃ fault,
      (surroundings.entry (Path.normalize text)).text (Path.normalize text) = .error fault ∧
        literalReport surroundings shown text = ⟨.crash (.file fault), .empty⟩ := by
  have looked := @source_eq_lookup surroundings text nonempty noNul notDash
  rw [literalReport, run_treeArguments _ shown notOption, runProgram]
  cases leads : surroundings.entry (Path.normalize text) with
  | missing | belowFile | directory | file content => simp [leads, Entry.isRefused] at refused
  | nameTooLong | denied =>
      rw [leads] at looked
      dsimp only
      rw [looked]
      exact ⟨_, rfl, rfl⟩

end

/-- In a directory, a text of more than 255 bytes without a slash is refused. -/
theorem literalReport_of_long
    {surroundings : Surroundings} {directory : Directory} (shown : Bool) {text : String}
    (noNul : '\x00' ∉ text.toList)
    (notOption : isOption text = false)
    (inDirectory : surroundings.entry = directory.entry)
    (noSlash : '/' ∉ text.toList)
    (long : Directory.componentLimit < text.utf8ByteSize) :
    literalReport surroundings shown text = ⟨.crash (.file (.nameTooLong text)), .empty⟩ := by
  have nonempty : text ≠ "" := by
    rintro rfl
    exact absurd long (by decide)
  have notDash : text ≠ "-" := by
    rintro rfl
    exact absurd long (by decide)
  have tooLong : surroundings.entry (Path.normalize text) = .nameTooLong := by
    rw [inDirectory]
    exact Directory.entry_normalize_eq_nameTooLong noSlash long directory
  have refused : (surroundings.entry (Path.normalize text)).isRefused = true := by
    rw [tooLong]
    rfl
  obtain ⟨fault, unread, reported⟩ :=
    literalReport_of_refused shown nonempty noNul notDash notOption refused
  rw [tooLong, Directory.normalize_of_long noSlash long] at unread
  cases unread
  exact reported

/-- A text that leads to no file or directory does as an argument what it does on the standard
input, exactly if the file system does not refuse it as a name: as too long, or because the way
there is closed. In a directory whose files are all known, texts of up to 255 bytes are not refused,
and longer ones without a slash are. -/
theorem literalReport_eq_inputReport
    (surroundings : Surroundings) (shown : Bool) {text : String}
    (nonempty : text ≠ "")
    (noReturn : '\r' ∉ text.toList)
    (noNul : '\x00' ∉ text.toList)
    (notDash : text ≠ "-")
    (notOption : isOption text = false)
    (absent : (surroundings.entry (Path.normalize text)).isPresent = false) :
    (literalReport surroundings shown text = inputReport surroundings shown text ↔
        (surroundings.entry (Path.normalize text)).isRefused = false) ∧
      ∀ directory : Directory, surroundings.entry = directory.entry →
        (text.utf8ByteSize ≤ Directory.componentLimit →
            literalReport surroundings shown text = inputReport surroundings shown text) ∧
          ('/' ∉ text.toList → Directory.componentLimit < text.utf8ByteSize →
            literalReport surroundings shown text ≠ inputReport surroundings shown text) := by
  have agrees :
      literalReport surroundings shown text = inputReport surroundings shown text ↔
        (surroundings.entry (Path.normalize text)).isRefused = false := by
    rw [inputReport_eq surroundings shown nonempty noReturn]
    constructor
    · intro same
      refine Bool.eq_false_iff.2 fun refused => ?_
      obtain ⟨fault, _, reported⟩ :=
        literalReport_of_refused shown nonempty noNul notDash notOption refused
      rw [reported] at same
      exact ending_ofText_ne_file _ shown text _ (congrArg Report.ending same).symm
    · exact literalReport_of_absent shown nonempty noNul notDash notOption absent
  refine ⟨agrees, fun directory inDirectory => ⟨fun short => ?_, fun noSlash long => ?_⟩⟩
  · rw [agrees, inDirectory]
    exact directory.isRefused_entry_normalize nonempty short
  · rw [Ne, agrees, inDirectory, Directory.entry_normalize_eq_nameTooLong noSlash long directory]
    nofun

/-- An empty directory with something on the standard input, and nothing else around a run. -/
def emptySurroundings (input : ByteArray) : Surroundings :=
  ⟨input, (Directory.mk []).entry, none, [], fun _ => .own⟩

/-- The tree of a short program in an empty directory. -/
theorem literalReport_eq_inputReport_of_short :
    literalReport (emptySurroundings "7;".toUTF8) true "1 + 2;" =
      inputReport (emptySurroundings "7;".toUTF8) true "1 + 2;" := by
  have nonempty : "1 + 2;" ≠ "" := by decide
  have agrees :=
    literalReport_eq_inputReport (emptySurroundings "7;".toUTF8) true nonempty
      (by decide) (by decide) (by decide) (by decide) (by decide +kernel)
  exact (agrees.2 (Directory.mk []) rfl).1 (by decide)

/-! ## Programs that are too long -/

/-- The program that is a text of so many letters and nothing else. -/
def letterProgram (count : Nat) : String :=
  "\"" ++ String.ofList (List.replicate count 'a') ++ "\"" ++ ";"

section

variable (count : Nat)

theorem toList_letterProgram :
    (letterProgram count).toList = '"' :: (List.replicate count 'a' ++ ['"', ';']) := by
  simp [letterProgram]

theorem letterProgram_ne
    {text : String}
    (starts : text.toList.head? ≠ some '"') :
    letterProgram count ≠ text := by
  rintro rfl
  rw [toList_letterProgram] at starts
  exact starts rfl

theorem isOption_letterProgram : isOption (letterProgram count) = false := by
  have noPath : grammarPath? (letterProgram count) = none := by
    simp [grammarPath?, toList_letterProgram]
  have notTree : letterProgram count ≠ "--tree" := letterProgram_ne count (by decide)
  have notRepl : letterProgram count ≠ "--repl" := letterProgram_ne count (by decide)
  have notGrammar : letterProgram count ≠ "--grammar" := letterProgram_ne count (by decide)
  simp [isOption, noPath, notTree, notRepl, notGrammar]

theorem notMem_letterProgram
    {c : Char}
    (other : c ∉ ['"', 'a', ';']) :
    c ∉ (letterProgram count).toList := by
  simp only [List.mem_cons, List.not_mem_nil, or_false, not_or] at other
  simp [toList_letterProgram, List.mem_replicate, other]

theorem inputReport_letterProgram (surroundings : Surroundings) :
    inputReport surroundings false (letterProgram count) =
      ⟨.exit 0, .out ("\"" ++ String.ofList (List.replicate count 'a') ++ "\"" ++ "\n")⟩ := by
  have nonempty : letterProgram count ≠ "" := letterProgram_ne count (by decide)
  have noReturn : '\r' ∉ (letterProgram count).toList := notMem_letterProgram count (by decide)
  have textChars :
      ∀ c ∈ (String.ofList (List.replicate count 'a')).toList, Lexing.isTextChar c = true := by
    intro c member
    rw [String.toList_ofList] at member
    rw [List.eq_of_mem_replicate member]
    decide
  rw [inputReport_eq surroundings false nonempty noReturn, Report.ofText,
    if_neg Bool.false_ne_true, Presentation.ofRun_own, letterProgram,
    Program.run_quoted textChars]
  simp [Presentation.ofOutcome, Outcome.value, Outcome.written, Presentation.echoLine,
    Value.isAbsent, Value.echo, Report.ofPresentation]

end

/-- In an empty directory, a text of 256 letters is refused as an argument, although it is neither
an option nor the way to anything, and it is echoed when it comes on the standard input. -/
theorem literalReport_ne_inputReport_of_long :
    letterProgram 256 ≠ "" ∧ '\r' ∉ (letterProgram 256).toList ∧
      '\x00' ∉ (letterProgram 256).toList ∧ letterProgram 256 ≠ "-" ∧
      isOption (letterProgram 256) = false ∧
      ((Directory.mk []).entry (Path.normalize (letterProgram 256))).isPresent = false ∧
      literalReport (emptySurroundings .empty) false (letterProgram 256) =
        ⟨.crash (.file (.nameTooLong (letterProgram 256))), .empty⟩ ∧
      inputReport (emptySurroundings .empty) false (letterProgram 256) =
        ⟨.exit 0, .out ("\"" ++ String.ofList (List.replicate 256 'a') ++ "\"" ++ "\n")⟩ := by
  have noReturn := notMem_letterProgram 256 (show '\r' ∉ ['"', 'a', ';'] by decide)
  have noNul := notMem_letterProgram 256 (show '\x00' ∉ ['"', 'a', ';'] by decide)
  have noSlash := notMem_letterProgram 256 (show '/' ∉ ['"', 'a', ';'] by decide)
  have notOption := isOption_letterProgram 256
  have long : Directory.componentLimit < (letterProgram 256).utf8ByteSize := by
    decide +kernel
  have tooLong := Directory.entry_normalize_eq_nameTooLong noSlash long (Directory.mk [])
  refine ⟨letterProgram_ne 256 (by decide), noReturn, noNul, letterProgram_ne 256 (by decide),
    notOption, ?_, ?_, inputReport_letterProgram 256 _⟩
  · rw [tooLong]
    rfl
  · exact literalReport_of_long false noNul notOption rfl noSlash long

end CommandLine

end Scriptlet
