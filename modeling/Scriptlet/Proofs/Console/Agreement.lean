import Scriptlet.CommandLine
import Scriptlet.Proofs.Console.Turns
import Scriptlet.Proofs.Lexing.Invisible
import Scriptlet.Proofs.Parsing.Reading
import Scriptlet.Proofs.Text.Encoding

/-!
# The console and the command line

A program means the same at the prompt and on the standard input, as long as it does not start with
a slash and its string literals have no invisible characters. The console drops these characters
from the whole text. In a program without carriage returns they stand only in comments and in
string literals, since nothing else that is read takes one in, so the visible text has the same
lexemes up to the content of the literals.
-/

namespace Scriptlet

/-! ## Programs without their invisible characters -/

def Lexeme.visible (lexeme : Lexeme) : Lexeme :=
  (lexeme.1, Line.visible lexeme.2)

/-- A text without carriage returns that is read along states is sheltered, and its visible
characters are read along the same states. Both are proved at once, from the end of the text on:
erasing leaves a lexeme and the gap before it alone because what follows is sheltered. -/
theorem Reads.sheltered_and_erased
    {states : List Automaton.State} {lexemes : List Lexeme} {text : List Char}
    (reads : Reads states lexemes text)
    (noReturn : '\r' ∉ text) :
    Lexing.Sheltered text ∧ Reads states (lexemes.map Lexeme.visible) (Line.erased text) := by
  induction reads with
  | @last state text atEnd =>
      have anchored : Lexing.Anchored (Lexing.afterGap text) := by
        rw [atEnd]
        exact ⟨Lexing.sheltered_nil, nofun⟩
      refine ⟨Lexing.sheltered_of_afterGap noReturn anchored.sheltered, .last ?_⟩
      rw [Lexing.afterGap_erased noReturn anchored, atEnd]
      rfl
  | @next state states lexeme lexemes text scanned _ inductionHypothesis =>
      have noReturnBehind :
          '\r' ∉ (Lexing.afterGap text).drop lexeme.2.toList.length :=
        fun member => noReturn (List.mem_of_mem_drop (List.mem_of_mem_drop member))
      obtain ⟨sheltered, readsBehind⟩ := inductionHypothesis noReturnBehind
      have anchored := Lexing.anchored_of_scan scanned sheltered
      have erasedGap := Lexing.afterGap_erased noReturn anchored
      have erasedText : lexeme.visible.2.toList = Line.erased lexeme.2.toList :=
        Line.toList_visible lexeme.2
      refine ⟨Lexing.sheltered_of_afterGap noReturn anchored.sheltered, .next ?_ ?_⟩
      · rw [erasedGap, erasedText]
        exact Lexing.scan_erased anchored.sheltered scanned
      · obtain ⟨_, rest, split⟩ := Lexing.scan_prefix_of_eq_some scanned
        rw [← split, List.drop_left] at readsBehind
        rw [erasedGap, erasedText, ← split, Line.erased_append, List.drop_left]
        exact readsBehind

theorem Parsed.sheltered
    {source : String} {parsed : Parsed}
    (succeeded : Parsed.ofText source = .ok parsed)
    (noReturn : '\r' ∉ source.toList) :
    Lexing.Sheltered source.toList :=
  ((Parsed.cut_of_ofText_eq_ok succeeded).reads.sheltered_and_erased noReturn).1

/-- No string literal of the program loses a character. -/
def Parsed.HasVisibleTexts (parsed : Parsed) : Prop :=
  ∀ token ∈ parsed.tokens, token.terminal = .string → Line.visible token.text = token.text

instance (parsed : Parsed) : Decidable parsed.HasVisibleTexts :=
  inferInstanceAs
    (Decidable
      (∀ token ∈ parsed.tokens, token.terminal = .string → Line.visible token.text = token.text))

theorem Parsed.visible_lexeme
    {source : String} {parsed : Parsed}
    (succeeded : Parsed.ofText source = .ok parsed)
    (visibleTexts : parsed.HasVisibleTexts)
    (lexeme : Lexeme)
    (member : lexeme ∈ parsed.derivation.lexemes) :
    lexeme.visible = lexeme := by
  obtain ⟨token, tokenMember, rfl, fits⟩ := Parsed.exists_token_of_mem_lexemes succeeded member
  refine Prod.ext rfl ?_
  by_cases isString : token.terminal = .string
  · exact visibleTexts token tokenMember isString
  · exact Line.visible_eq_self (Lexing.visible_of_mem_pattern isString fits)

/-- Dropping the invisible characters of comments does not change what a program does. -/
theorem Program.run_visible
    {source : String} {parsed : Parsed}
    (succeeded : Parsed.ofText source = .ok parsed)
    (noReturn : '\r' ∉ source.toList)
    (visibleTexts : parsed.HasVisibleTexts)
    (context : Context) :
    Program.run (Line.visible source) context = Program.run source context := by
  have unchanged : parsed.derivation.lexemes.map Lexeme.visible = parsed.derivation.lexemes :=
    (List.map_congr_left (Parsed.visible_lexeme succeeded visibleTexts)).trans (List.map_id _)
  have reads := Parsed.exists_ofText_eq_ok_iff_reads.1 ⟨parsed.tokens, succeeded⟩
  have erasedReads := (reads.sheltered_and_erased noReturn).2
  rw [unchanged, ← Line.toList_visible] at erasedReads
  obtain ⟨tokens, reparsed⟩ := Parsed.exists_ofText_eq_ok_iff_reads.2 erasedReads
  simp only [Program.run, Program.tree, succeeded, reparsed]
  rfl

/-- So it is shown in the same way. -/
theorem Presentation.ofRun_visible
    {source : String} {parsed : Parsed} (tracing : Bool)
    (succeeded : Parsed.ofText source = .ok parsed)
    (noReturn : '\r' ∉ source.toList)
    (visibleTexts : parsed.HasVisibleTexts) :
    Presentation.ofRun tracing .own (Line.visible source) =
      Presentation.ofRun tracing .own source := by
  have ran : Program.run source none = .ok _ :=
    Program.run_of_tree_eq_ok (by rw [Program.tree, succeeded]) none
  have ranVisible := Program.run_visible succeeded noReturn visibleTexts none
  rw [ran] at ranVisible
  rw [ofRun_own, ofRun_own, ran, ranVisible]

/-! ## Programs on the standard input -/

namespace CommandLine

/-- A text on the standard input is run as it is. -/
theorem transcript_run_input
    {surroundings : Surroundings} (text : String) {first : Char}
    (given : surroundings.input = text.toUTF8)
    (noReturn : '\r' ∉ text.toList)
    (starts : (text.toList.dropWhile Text.isBlank).head? = some first) :
    (run surroundings ["-"]).transcript =
      (Presentation.ofRun surroundings.tracing.isOn .own text).transcript := by
  have nonempty : text.isEmpty = false := by
    refine Bool.eq_false_iff.2 fun empty => ?_
    rw [String.isEmpty_iff.1 empty] at starts
    cases starts
  have found : inputSource surroundings.input = .ok text := by
    rw [inputSource, given, Text.Encoding.readText_toUTF8 noReturn]
    simp [nonempty]
  have requested : Request.ofArguments {} ["-"] = .program { source := some "-" } := by
    decide
  have reported :
      run surroundings ["-"] =
        .ofPresentation (Presentation.ofRun surroundings.tracing.isOn .own text) := by
    rw [run, requested]
    dsimp only
    rw [runProgram, source, if_pos (by decide), found]
    rfl
  rw [reported, Report.ofPresentation]
  split <;> rfl

end CommandLine

/-! ## Programs at the prompt -/

namespace Console

section

variable {source : String} {parsed : Parsed} {first : Char}
  (succeeded : Parsed.ofText source = .ok parsed)
  (noReturn : '\r' ∉ source.toList)
  (starts : (source.toList.dropWhile Text.isBlank).head? = some first)

include succeeded noReturn starts

theorem head?_visible :
    ((Line.visible source).toList.dropWhile Text.isBlank).head? = some first := by
  rw [Line.toList_visible, ← starts]
  exact
    Lexing.head?_dropWhile_erased (by decide) (by decide) (Parsed.sheltered succeeded noReturn)

/-- A program that does not start with a slash is submitted without its invisible characters. -/
theorem transcript_turn_of_ofText_eq_ok
    {console : Console}
    (notSlash : first ≠ '/')
    (treeOff : console.showTree = false) :
    (console.turn source).2.transcript =
      (Presentation.ofRun console.tracing.isOn .own (Line.visible source)).transcript := by
  have entered : programOf? source = some (Line.visible source) := by
    rw [programOf?, head?_visible succeeded noReturn starts]
    dsimp only
    rw [if_neg notSlash]
  rw [console.turn_of_program entered, submit, treeOff]
  rfl

end

/-- A turn on a program that does not start with a slash shows what the command line shows for its
visible characters on the standard input, and for the program itself unless one of its string
literals has an invisible character. -/
theorem turn_agrees
    (console : Console) (surroundings : CommandLine.Surroundings)
    {source : String} {parsed : Parsed} {first : Char}
    (succeeded : Parsed.ofText source = .ok parsed)
    (noReturn : '\r' ∉ source.toList)
    (starts : (source.toList.dropWhile Text.isBlank).head? = some first)
    (notSlash : first ≠ '/')
    (treeOff : console.showTree = false)
    (tracingOff : console.tracing.isOn = false)
    (surroundingsOff : surroundings.tracing.isOn = false) :
    (surroundings.input = (Line.visible source).toUTF8 →
        (console.turn source).2.transcript =
          (CommandLine.run surroundings ["-"]).transcript) ∧
      (parsed.HasVisibleTexts → surroundings.input = source.toUTF8 →
        (console.turn source).2.transcript =
          (CommandLine.run surroundings ["-"]).transcript) := by
  have turned := transcript_turn_of_ofText_eq_ok succeeded noReturn starts notSlash treeOff
  rw [tracingOff] at turned
  constructor
  · intro given
    have noReturnVisible : '\r' ∉ (Line.visible source).toList := by
      rw [Line.toList_visible]
      exact fun member => noReturn (List.mem_of_mem_filter member)
    rw [turned,
      CommandLine.transcript_run_input _ given noReturnVisible
        (head?_visible succeeded noReturn starts),
      surroundingsOff]
  · intro visibleTexts given
    rw [turned, CommandLine.transcript_run_input _ given noReturn starts, surroundingsOff,
      Presentation.ofRun_visible false succeeded noReturn visibleTexts]

/-- A program with an invisible character in its comment. -/
theorem turn_agrees_commented :
    ((start none).turn "2 * 21; // a\u00a0b").2.transcript =
      (CommandLine.run ⟨"2 * 21; // a\u00a0b".toUTF8, fun _ => .missing, none, [], fun _ => .own⟩
        ["-"]).transcript := by
  have checked :
      ((Parsed.ofText "2 * 21; // a\u00a0b").toOption.any fun parsed =>
        decide parsed.HasVisibleTexts) = true := by
    decide +kernel
  cases succeeded : Parsed.ofText "2 * 21; // a\u00a0b" with
  | error error =>
      rw [succeeded] at checked
      cases checked
  | ok parsed =>
      rw [succeeded] at checked
      have agrees :=
        turn_agrees (start none)
          ⟨"2 * 21; // a\u00a0b".toUTF8, fun _ => .missing, none, [], fun _ => .own⟩
          succeeded (by decide) rfl (by decide) rfl rfl rfl
      exact agrees.2 (of_decide_eq_true checked) rfl

/-- Two programs that do not agree: one has an invisible character in a string literal, the other
is a comment, which is taken for a command. -/
theorem turn_disagrees :
    (Parsed.ofText "print(\"a\u00a0b\");").isOk = true ∧
      ((start none).turn "print(\"a\u00a0b\");").2.transcript = .out "ab" ∧
      (CommandLine.run ⟨"print(\"a\u00a0b\");".toUTF8, fun _ => .missing, none, [], fun _ => .own⟩
        ["-"]).transcript = .out "a\u00a0b" ∧
      (Parsed.ofText "// two").isOk = true ∧
      ((start none).turn "// two").2.transcript = .err "Unknown command: //\n" ∧
      (CommandLine.run ⟨"// two".toUTF8, fun _ => .missing, none, [], fun _ => .own⟩
        ["-"]).transcript = .empty := by
  refine ⟨by decide +kernel, by decide +kernel, ?_, by decide +kernel, by decide +kernel, ?_⟩
  · rw [CommandLine.transcript_run_input "print(\"a\u00a0b\");" rfl (by decide) rfl]
    decide +kernel
  · rw [CommandLine.transcript_run_input "// two" rfl (by decide) rfl]
    decide +kernel

end Console

end Scriptlet
