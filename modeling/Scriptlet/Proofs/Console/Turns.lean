import Scriptlet.Console.Session
import Scriptlet.Proofs.Evaluation.Faults
import Scriptlet.Proofs.Text.Words
import Scriptlet.Proofs.Tree.Outline

/-!
# Turns of the console

The first character of an entered text that is no blank decides what a turn does: a slash makes it
a command, any other character a program, and without one nothing happens. Only programs can
crash a turn, and the console's switches have no part in it. A syntax error, a mismatch and a zero
divisor are reported and a tree can always be listed, so what is left is a number with more digits
than are read.
-/

namespace Scriptlet

/-! ## Programs, commands and blank lines -/

namespace Console

/-- The program that an entered text stands for: its visible characters, unless all of them are
blank or the first one that is not is a slash. -/
def programOf? (entered : String) : Option String :=
  match ((Line.visible entered).toList.dropWhile Text.isBlank).head? with
  | none => none
  | some first => if first = '/' then none else some (Line.visible entered)

theorem turn_of_program
    {entered text : String} (console : Console)
    (program : programOf? entered = some text) :
    console.turn entered = (console, console.submit text) := by
  unfold programOf? at program
  split at program
  · cases program
  · next first starts =>
      split at program
      · cases program
      · next notSlash =>
          cases program
          rw [← Text.head?_toList_trim] at starts
          have solid : (Text.trim (Line.visible entered)).isEmpty = false := by
            refine Bool.eq_false_iff.2 fun empty => ?_
            rw [String.isEmpty_iff.1 empty] at starts
            cases starts
          have noCommand : console.command? (Line.visible entered) = none := by
            simp [command?, starts, notSlash]
          simp [turn, solid, noCommand]

theorem command?_eq_none_iff {console : Console} {line : String} :
    console.command? line = none ↔ (Text.trim line).toList.head? ≠ some '/' := by
  unfold command?
  dsimp only
  split
  · next slash =>
      refine ⟨fun noCommand => ?_, fun noSlash => absurd slash noSlash⟩
      split at noCommand <;> cases noCommand
  · next noSlash => exact ⟨fun _ => noSlash, fun _ => rfl⟩

theorem trim_visible_of_no_program
    {entered : String}
    (noProgram : programOf? entered = none) :
    Text.trim (Line.visible entered) = "" ∨
      (Text.trim (Line.visible entered)).toList.head? = some '/' := by
  unfold programOf? at noProgram
  rw [← Text.head?_toList_trim] at noProgram
  split at noProgram
  · next nothing => exact .inl (String.toList_eq_nil_iff.1 (List.head?_eq_none_iff.1 nothing))
  · next first starts =>
      split at noProgram
      · next isSlash => exact .inr (isSlash ▸ starts)
      · cases noProgram

/-- A turn without a program is done with what it has to do. -/
theorem verdict_turn_of_no_program
    {entered : String} (console : Console)
    (noProgram : programOf? entered = none) :
    (console.turn entered).2.verdict = .done := by
  rcases trim_visible_of_no_program noProgram with empty | slash
  · simp [turn, empty]
  · cases performed : console.command? (Line.visible entered) with
    | none => exact absurd slash (command?_eq_none_iff.1 performed)
    | some performance =>
        unfold turn
        dsimp only
        rw [performed]
        split <;> rfl

end Console

/-! ## Programs that crash a turn -/

/-- Faults that a program meets when it runs without context are declared ones. -/
theorem Program.declared_of_run
    {source : String} {outcome : Outcome Value} {fault : Fault}
    (ran : Program.run source none = .ok outcome)
    (failed : outcome.result = .error fault) :
    ∃ parsed, Parsed.ofText source = .ok parsed ∧ Fault.Declared parsed.tokens fault := by
  unfold Program.run Program.tree at ran
  split at ran
  · next tree accepted =>
      split at accepted
      · next parsed succeeded =>
          cases accepted
          cases ran
          have regular : (parsed.tree .compact).Regular (SpelledNumber parsed.tokens) := by
            apply Derivation.lower_regular parsed.derivation
            intro lexeme member isNumber
            obtain ⟨token, tokenMember, rfl, fits⟩ :=
              Parsed.exists_token_of_mem_lexemes succeeded member
            exact ⟨token, tokenMember, isNumber, fits, rfl⟩
          have within :=
            Node.evaluate_within .mismatch .divisionByZero .moduloByZero
              (fun _ => Node.numberValue_within) (Node.regular_unwrapped regular) none
          exact ⟨parsed, succeeded, within fault failed⟩
      · cases accepted
  · cases ran

/-- The count of digits of the number that a program comes upon and that is too long to read. -/
def Program.overrun? (source : String) : Option Nat :=
  match Program.run source none with
  | .ok ⟨_, .error (.badNumeral (.tooManyDigits digits))⟩ => some digits
  | _ => none

theorem Program.overrun?_eq_some_iff {source : String} {digits : Nat} :
    Program.overrun? source = some digits ↔
      ∃ outcome,
        Program.run source none = .ok outcome ∧
          outcome.result = .error (.badNumeral (.tooManyDigits digits)) := by
  unfold Program.overrun?
  split
  · next output found ran => simp [ran]
  · next other =>
      refine ⟨nofun, ?_⟩
      rintro ⟨⟨output, result⟩, ran, rfl⟩
      exact (other output digits ran).elim

/-- Such a program has a number of more digits than are read. -/
theorem Program.exists_long_number_of_overrun
    {source : String} {digits : Nat}
    (overruns : Program.overrun? source = some digits) :
    ∃ parsed,
      Parsed.ofText source = .ok parsed ∧
        ∃ token ∈ parsed.tokens,
          token.terminal = .number ∧ token.text.length = digits ∧
            Text.Numeral.digitLimit < digits := by
  obtain ⟨outcome, ran, failed⟩ := Program.overrun?_eq_some_iff.1 overruns
  obtain ⟨parsed, succeeded, declared⟩ := Program.declared_of_run ran failed
  cases declared with
  | tooManyDigits member isNumber tooLong =>
      exact ⟨parsed, succeeded, _, member, isNumber, rfl, tooLong⟩

namespace Presentation

/-- What the language's own front end makes of a program is the run of the program. -/
theorem ofRun_own (tracing : Bool) (source : String) :
    ofRun tracing .own source =
      match Program.run source none with
      | .ok outcome => ofOutcome tracing outcome
      | .error error => ⟨.ofError tracing (error.message source), .reported⟩ := by
  rw [ofRun, FrontEnd.own, Program.run]
  cases Program.tree source <;> rfl

/-- Only a number that is too long makes running a program crash. -/
theorem ofRun_crashed_iff {tracing : Bool} {source : String} {crash : Crash} :
    (ofRun tracing .own source).verdict = .crashed crash ↔
      ∃ digits,
        Program.overrun? source = some digits ∧
          crash = .fault (.badNumeral (.tooManyDigits digits)) := by
  simp only [Program.overrun?_eq_some_iff]
  rw [ofRun_own]
  cases ran : Program.run source none with
  | error error => simp
  | ok outcome =>
      cases ended : outcome.result with
      | ok value => simp [ofOutcome, ended]
      | error fault =>
          obtain ⟨parsed, _, declared⟩ := Program.declared_of_run ran ended
          cases declared <;> simp [ofOutcome, ended, Fault.isReported, eq_comm]

/-- Listing the tree of a program never crashes. -/
theorem verdict_ofTree
    {source : String} {tree : Node} (tracing : Bool)
    (accepted : Program.tree source = .ok tree) :
    (ofTree tracing .own source).verdict = .done := by
  obtain ⟨listable, writable⟩ := Program.tree_listable accepted
  obtain ⟨text, outlined⟩ := listable.exists_outline_iff.2 writable
  simp [ofTree, FrontEnd.own, accepted, outlined]

end Presentation

/-- Whatever its switches, a console crashes on a program exactly if the program comes upon a
number that is too long. -/
theorem Console.submit_crashed_iff {console : Console} {text : String} {crash : Crash} :
    (console.submit text).verdict = .crashed crash ↔
      ∃ digits,
        Program.overrun? text = some digits ∧
          crash = .fault (.badNumeral (.tooManyDigits digits)) := by
  unfold Console.submit
  dsimp only
  split
  · cases accepted : Program.tree text with
    | ok tree =>
        have listed := Presentation.verdict_ofTree console.tracing.isOn accepted
        rw [← Presentation.ofRun_crashed_iff, Presentation.followedBy, listed]
    | error error =>
        have refused : Program.overrun? text = none := by
          rw [Program.overrun?, Program.run, accepted]
        simp [Presentation.followedBy, Presentation.ofTree, Presentation.ofRejection,
          FrontEnd.own, accepted, refused]
  · exact Presentation.ofRun_crashed_iff

end Scriptlet
