import Scriptlet.CommandLine
import Scriptlet.Proofs.Console.Turns
import Scriptlet.Proofs.Evaluation.Echo
import Scriptlet.Proofs.Lexing.Invisible

/-!
# Sessions

The loop of the console on whatever its prompts yield. After each result the session stands at the
next prompt, or has ended with the input, or has crashed. It never crashes unless a submitted
program comes upon a number that is too long to read.
-/

namespace Scriptlet

namespace Console

/-! ## Where a session stands -/

/-- Whether a session stands where it should after the given results: at its end if they hold the
end of the input, and else at the next prompt. -/
def Standing.Proper (results : List Prompted) : Standing → Prop
  | .awaiting _ => .endOfInput ∉ results
  | .ended => .endOfInput ∈ results
  | .crashed _ => False

/-- The programs among the results of prompts, up to the end of the input. -/
def programs : List Prompted → List String
  | [] => []
  | .endOfInput :: _ => []
  | .interrupt :: results => programs results
  | .text entered :: results => (programOf? entered).toList ++ programs results

theorem Standing.proper_cons_iff
    {result : Prompted} {results : List Prompted} {standing : Standing}
    (goesOn : result ≠ .endOfInput) :
    standing.Proper (result :: results) ↔ standing.Proper results := by
  cases standing with
  | awaiting console => simp [Proper, Ne.symm goesOn]
  | ended => simp [Proper, Ne.symm goesOn]
  | crashed crash => rfl

/-- A turn crashes exactly if it is a program that comes upon a number that is too long. -/
theorem turn_crashed_iff {console : Console} {entered : String} :
    (∃ crash, (console.turn entered).2.verdict = .crashed crash) ↔
      ∃ program ∈ programOf? entered, Program.overrun? program ≠ none := by
  cases found : programOf? entered with
  | none =>
      have done := console.verdict_turn_of_no_program found
      simp [done]
  | some program =>
      rw [console.turn_of_program found]
      simp [submit_crashed_iff, Option.ne_none_iff_exists']

/-- A session stands where it should exactly if no program that is submitted before the end of the
input comes upon a number that is too long. The induction follows the results; only the console's
switches pass from one turn to the next, and no crash depends on them. -/
theorem proper_serve_iff (console : Console) (results : List Prompted) :
    (console.serve results).2.Proper results ↔
      ∀ program ∈ programs results, Program.overrun? program = none := by
  induction results generalizing console with
  | nil => simp [serve, Standing.Proper, programs]
  | cons result results inductionHypothesis =>
      cases result with
      | endOfInput => simp [serve, Standing.Proper, programs]
      | interrupt =>
          rw [Standing.proper_cons_iff Prompted.noConfusion, serve, programs]
          exact inductionHypothesis console
      | text entered =>
          rw [Standing.proper_cons_iff Prompted.noConfusion, serve, programs]
          rw [List.forall_mem_append]
          have crashes := @turn_crashed_iff console entered
          rcases turned : console.turn entered with ⟨next, transcript, verdict⟩
          rw [turned] at crashes
          cases verdict with
          | crashed crash =>
              obtain ⟨program, found, overruns⟩ := crashes.1 ⟨crash, rfl⟩
              refine ⟨False.elim, fun ⟨quiet, _⟩ => ?_⟩
              exact overruns (quiet program (Option.mem_toList.2 found))
          | done | reported =>
              have quiet :
                  ∀ program ∈ (programOf? entered).toList, Program.overrun? program = none := by
                intro program found
                by_contra overruns
                obtain ⟨crash, impossible⟩ :=
                  crashes.2 ⟨program, Option.mem_toList.1 found, overruns⟩
                cases impossible
              exact (inductionHypothesis next).trans ⟨fun later => ⟨quiet, later⟩, And.right⟩

theorem endOfInput_mem_of_ended
    {console : Console} {results : List Prompted}
    (ended : (console.serve results).2 = .ended) :
    .endOfInput ∈ results := by
  induction results generalizing console with
  | nil => cases ended
  | cons result results inductionHypothesis =>
      cases result with
      | endOfInput => exact List.mem_cons_self
      | interrupt => exact List.mem_cons_of_mem _ (inductionHypothesis ended)
      | text entered =>
          rw [serve] at ended
          rcases turned : console.turn entered with ⟨next, transcript, verdict⟩
          rw [turned] at ended
          cases verdict with
          | crashed crash => cases ended
          | done | reported => exact List.mem_cons_of_mem _ (inductionHypothesis ended)

/-- A session ends with the input exactly if the input ends and no program before that comes upon a
number that is too long. -/
theorem ended_serve_iff {console : Console} {results : List Prompted} :
    (console.serve results).2 = .ended ↔
      .endOfInput ∈ results ∧ ∀ program ∈ programs results, Program.overrun? program = none := by
  rw [← proper_serve_iff console]
  cases stands : (console.serve results).2 with
  | awaiting next => simp [Standing.Proper]
  | ended => simp [Standing.Proper, endOfInput_mem_of_ended stands]
  | crashed crash => simp [Standing.Proper]

/-- Whatever the prompts yield, the session goes on to the next prompt until the input ends, unless
a program comes upon a number that is too long; such a program has a number token of that length. A
run of the command line that holds this session ends with it and without a failure exactly if the
input ends and no such program is submitted. -/
theorem session_endures (tracing : Switch.Setting) (results : List Prompted) :
    (((start tracing).serve results).2.Proper results ↔
        ∀ program ∈ programs results, Program.overrun? program = none) ∧
      (∀ program digits, Program.overrun? program = some digits →
        ∃ parsed,
          Parsed.ofText program = .ok parsed ∧
            ∃ token ∈ parsed.tokens,
              token.terminal = .number ∧ token.text.length = digits ∧
                Text.Numeral.digitLimit < digits) ∧
      ∀ surroundings : CommandLine.Surroundings,
        surroundings.tracing = tracing → surroundings.prompted = results →
          ((CommandLine.run surroundings ["--repl"]).ending = .exit 0 ↔
            .endOfInput ∈ results ∧
              ∀ program ∈ programs results, Program.overrun? program = none) := by
  refine ⟨proper_serve_iff _ results, ?_, ?_⟩
  · intro program digits overruns
    exact Program.exists_long_number_of_overrun overruns
  · rintro surroundings rfl rfl
    have ending :
        (CommandLine.run surroundings ["--repl"]).ending =
          .ofStanding ((start surroundings.tracing).serve surroundings.prompted).2 :=
      rfl
    rw [ending, ← ended_serve_iff]
    cases ((start surroundings.tracing).serve surroundings.prompted).2 <;>
      simp [CommandLine.Ending.ofStanding]

/-- A session with a zero divisor, a command, an interrupt and a syntax error. -/
theorem session_endures_failures :
    ((start none).serve
        [.text "1 / 0;", .text "/tree on", .interrupt, .text "print(", .text "2;"]).2.Proper
      [.text "1 / 0;", .text "/tree on", .interrupt, .text "print(", .text "2;"] :=
  (session_endures none _).1.2 (by decide +kernel)

end Console

/-! ## A session that crashes -/

theorem Text.repr_toList_ne_nil (number : Nat) : number.repr.toList ≠ [] := by
  rw [Nat.toList_repr]
  exact Nat.toDigits_ne_nil

theorem Program.overrun?_repr
    {number : Nat}
    (long : Text.Numeral.digitLimit < number.repr.length) :
    Program.overrun? (number.repr ++ ";") = some number.repr.length := by
  have read :=
    Text.Numeral.read_of_digits (Text.repr_toList_ne_nil number) fun _ => Text.isDigit_of_mem_repr
  rw [String.ofList_toList, String.length_toList, if_pos long] at read
  rw [Program.overrun?, Program.run_repr]
  simp [Node.numberValue, Payload.plainOf, Payload.plain, Scalar.plain, read, Outcome.fail]

namespace Console

/-- A number before a semicolon is entered as a program, with nothing dropped. -/
theorem programOf?_repr (number : Nat) :
    programOf? (number.repr ++ ";") = some (number.repr ++ ";") := by
  have allSeen : ∀ c ∈ (number.repr ++ ";").toList, Line.isInvisible c = false := by
    intro c member
    rw [String.toList_append, List.mem_append] at member
    rcases member with inNumber | isSemicolon
    · exact Lexing.isInvisible_eq_false_of_isDigit (Text.isDigit_of_mem_repr inNumber)
    · rw [List.mem_singleton.1 isSemicolon]
      decide
  obtain ⟨first, others, spelled⟩ := List.exists_cons_of_ne_nil (Text.repr_toList_ne_nil number)
  have member : first ∈ number.repr.toList := spelled ▸ List.mem_cons_self
  have firstDigit : first.isDigit = true := Text.isDigit_of_mem_repr member
  have notSlash : first ≠ '/' := Lexing.ne_of_accepts firstDigit (by decide)
  simp [programOf?, Line.visible_eq_self allSeen, spelled,
    Text.isBlank_eq_false_of_isDigit firstDigit, notSlash]

/-- The least number that is too long to read, entered as a program before the end of the
input. -/
theorem not_proper_serve_long_number :
    ¬ ((start none).serve
        [.text ((10 ^ Text.Numeral.digitLimit).repr ++ ";"), .endOfInput]).2.Proper
      [.text ((10 ^ Text.Numeral.digitLimit).repr ++ ";"), .endOfInput] := by
  have long : Text.Numeral.digitLimit < (10 ^ Text.Numeral.digitLimit).repr.length := by
    rw [← Nat.not_le, Nat.length_repr_le_iff (by decide)]
    exact Nat.lt_irrefl _
  rw [proper_serve_iff, programs, programOf?_repr]
  intro quiet
  have overruns := Program.overrun?_repr long
  rw [quiet _ (by simp)] at overruns
  cases overruns

end Console

end Scriptlet
