import Mathlib.Data.List.Find
import Scriptlet.Proofs.Evaluation.Equations
import Scriptlet.Proofs.Grammar.Statements
import Scriptlet.Proofs.Lexing.Lines
import Scriptlet.Proofs.Parsing.Reading

/-!
# Joined programs

Two programs that are written one below the other are one program, with the statements of both.
The second one is then read in another state and on a stack that is not empty. This changes
nothing because the automaton goes the same way from there as from its first state; only the first
lexeme is read in a state that may allow more, a closing brace or the word `else`.
-/

namespace Scriptlet

/-! ## Where a program may end, another may start -/

namespace Automaton

/-- Whether a state allows what the first state allows and, beyond that, at most the word `else`
and a closing brace. -/
def allowsLikeStart (state : State) : Bool :=
  Terminal.all.all fun terminal =>
    terminal == .keyword .elseWord || terminal == .mark .rightBrace ||
      allows state terminal == allows start terminal

theorem allowsLikeStart_of_ending :
    ∀ state < rows.length, allows state .endOfInput = true → allowsLikeStart state = true := by
  decide +kernel

theorem allows_eq_allows_start
    {state : State} {terminal : Terminal}
    (ending : allows state .endOfInput = true)
    (notElse : terminal ≠ .keyword .elseWord)
    (notBrace : terminal ≠ .mark .rightBrace) :
    allows state terminal = allows start terminal := by
  have inside : state < rows.length := by
    apply lt_length_of_row_ne
    intro empty
    rw [allows, action?, empty] at ending
    cases ending
  have like := allowsLikeStart_of_ending state inside ending
  have same := List.all_eq_true.1 like terminal terminal.mem_all
  simpa [notElse, notBrace] using same

end Automaton

namespace Lexing

theorem eq_rightBrace_of_lexeme?
    {terminal : Terminal} {rest lexeme : List Char}
    (read : lexeme? terminal ('}' :: rest) = some lexeme) :
    terminal = .mark .rightBrace := by
  cases terminal with
  | keyword word => cases word <;> cases read
  | mark sign => cases sign <;> first | rfl | cases read
  | _ => cases read

theorem wordTerminal_congr
    {allowed other : Terminal → Bool} {word : List Char}
    (same :
      ∀ reserved : Keyword, reserved.spelling = word →
        other (.keyword reserved) = allowed (.keyword reserved)) :
    wordTerminal other word = wordTerminal allowed word := by
  have sameMatches :
      ∀ reserved ∈ Keyword.all,
        (other (.keyword reserved) && reserved.spelling == word) =
          (allowed (.keyword reserved) && reserved.spelling == word) := by
    intro reserved _
    by_cases spelled : reserved.spelling = word
    · rw [same reserved spelled]
    · have different : (reserved.spelling == word) = false := beq_false_of_ne spelled
      rw [different, Bool.and_false, Bool.and_false]
  simp only [wordTerminal, List.find?_congr sameMatches]

/-- Where names are allowed, allowing the word `else` and a closing brace besides changes nothing
for a text that starts with another lexeme. -/
theorem scan_of_allowed_besides
    {allowed wider : Terminal → Bool} {text lexeme : List Char} {terminal : Terminal}
    (scanned : scan allowed text = some (terminal, lexeme))
    (names : allowed .ident = true)
    (same :
      ∀ other, other ≠ .keyword .elseWord → other ≠ .mark .rightBrace →
        wider other = allowed other)
    (noElse : allowed (.keyword .elseWord) = false)
    (noBrace : allowed (.mark .rightBrace) = false)
    (unlike : lexeme ≠ Keyword.elseWord.spelling) :
    scan wider text = some (terminal, lexeme) := by
  obtain ⟨before, tried, after, order, silent, granted, read, rfl⟩ :=
    exists_before_of_scan scanned
  have triedNotElse : tried ≠ .keyword .elseWord := by
    rintro rfl
    rw [noElse] at granted
    cases granted
  have triedNotBrace : tried ≠ .mark .rightBrace := by
    rintro rfl
    rw [noBrace] at granted
    cases granted
  have sameWords :
      ∀ reserved : Keyword, reserved.spelling = lexeme →
        wider (.keyword reserved) = allowed (.keyword reserved) := by
    intro reserved spelled
    apply same
    · rintro isElse
      cases isElse
      exact unlike spelled.symm
    · exact Terminal.noConfusion
  have silentWider :
      ∀ earlier ∈ before, wider earlier = true → lexeme? earlier text = none := by
    intro earlier member earlierGranted
    by_cases isElse : earlier = .keyword .elseWord
    · -- Names are tried first, so the text would have been read as one.
      subst isElse
      have nameless : lexeme? .ident text = none := by
        cases before with
        | nil => cases member
        | cons first others =>
            have isIdent : Terminal.ident = first := (List.cons.inj order).1
            exact silent .ident (isIdent ▸ List.mem_cons_self ..) names
      cases found : lexeme? (.keyword .elseWord) text with
      | none => rfl
      | some word =>
          obtain ⟨_, ⟨rest, rfl⟩⟩ := exactly?_eq_some found
          cases nameless
    by_cases isBrace : earlier = .mark .rightBrace
    · subst isBrace
      cases found : lexeme? (.mark .rightBrace) text with
      | none => rfl
      | some brace =>
          obtain ⟨_, ⟨rest, rfl⟩⟩ := exactly?_eq_some found
          exact absurd (eq_rightBrace_of_lexeme? read) triedNotBrace
    · rw [same earlier isElse isBrace] at earlierGranted
      exact silent earlier member earlierGranted
  have sameTerminal : classify wider tried lexeme = classify allowed tried lexeme := by
    cases tried with
    | ident => exact wordTerminal_congr sameWords
    | _ => rfl
  rw [← sameTerminal]
  apply scan_eq_some_of_before before after order silentWider
  · rw [same tried triedNotElse triedNotBrace, granted]
  · exact read

end Lexing

/-! ## Reading on after a line break -/

namespace Reads

theorem exists_cons
    {states : List Automaton.State} {lexemes : List Lexeme} {text : List Char}
    (reads : Reads states lexemes text) :
    ∃ state others, states = state :: others := by
  cases reads with
  | last _ => exact ⟨_, _, rfl⟩
  | next _ _ => exact ⟨_, _, rfl⟩

/-- A program that can be read from the first state on can be read in every state in which the
input may end, unless it starts with the word `else`. -/
theorem resume
    {state : Automaton.State} {states : List Automaton.State} {lexemes : List Lexeme}
    {text : List Char}
    (reads : Reads (Automaton.start :: states) lexemes text)
    (ending : Automaton.allows state .endOfInput = true)
    (unlike : ∀ lexeme, lexemes.head? = some lexeme → lexeme.2 ≠ "else") :
    Reads (state :: states) lexemes text := by
  cases reads with
  | last atEnd => exact .last atEnd
  | @next _ _ lexeme _ _ scanned rest =>
      have unlikeElse : lexeme.2.toList ≠ Keyword.elseWord.spelling := by
        intro spelled
        apply unlike lexeme rfl
        rw [← String.ofList_toList (s := lexeme.2), spelled]
        rfl
      refine .next ?_ rest
      exact
        Lexing.scan_of_allowed_besides scanned (by decide)
          (fun other notElse notBrace =>
            Automaton.allows_eq_allows_start ending notElse notBrace)
          (by decide) (by decide) unlikeElse

/-- Further lines are read on from the last state. The induction follows the lexemes of the first
text: each one is read as before because it cannot reach over the line break. -/
theorem append
    {states others : List Automaton.State} {lexemes moreLexemes : List Lexeme}
    {text more : List Char}
    (reads : Reads states lexemes text)
    (continued :
      ∀ final, states.getLast? = some final → Reads (final :: others) moreLexemes more) :
    Reads (states ++ others) (lexemes ++ moreLexemes) (text ++ '\n' :: more) := by
  induction reads with
  | last atEnd =>
      have sameGap := Lexing.afterGap_append_newline_of_eq_nil more atEnd
      exact (continued _ rfl).congr sameGap.symm
  | @next state states lexeme lexemes text scanned rest inductionHypothesis =>
      obtain ⟨nonempty, begins⟩ := Lexing.scan_prefix_of_eq_some scanned
      have unfinished : Lexing.afterGap text ≠ [] := by
        intro atEnd
        rw [atEnd] at begins
        exact nonempty (List.prefix_nil.1 begins)
      have remaining := Lexing.afterGap_append_newline_of_ne_nil more unfinished
      obtain ⟨second, later, rfl⟩ := rest.exists_cons
      refine .next ?_ ?_
      · rw [remaining, Lexing.scan_append_newline]
        exact scanned
      · rw [remaining, List.drop_append_of_le_length begins.length_le]
        apply inductionHypothesis
        intro final isLast
        apply continued final
        rw [List.getLast?_cons_cons]
        exact isLast

end Reads

/-- Two texts with a line break between them are parsed to the statements of both. -/
theorem Parsed.ofText_joined
    {first second : String} {statements others : List StatementDerivation}
    {tokens moreTokens : List Token}
    (firstParsed :
      Parsed.ofText first = .ok ⟨tokens, ProgramDerivation.ofStatements statements⟩)
    (secondParsed :
      Parsed.ofText second = .ok ⟨moreTokens, ProgramDerivation.ofStatements others⟩)
    (unlike : ∀ token, moreTokens.head? = some token → token.text ≠ "else") :
    ∃ allTokens,
      Parsed.ofText (first ++ "\n" ++ second) =
        .ok ⟨allTokens, ProgramDerivation.ofStatements (statements ++ others)⟩ := by
  have firstReads := Parsed.exists_ofText_eq_ok_iff_reads.1 ⟨_, firstParsed⟩
  have secondReads := Parsed.exists_ofText_eq_ok_iff_reads.1 ⟨_, secondParsed⟩
  have unlikeLexeme :
      ∀ lexeme,
        (ProgramDerivation.ofStatements others).lexemes.head? = some lexeme →
          lexeme.2 ≠ "else" := by
    intro lexeme isFirst
    rw [(Parsed.laid_of_ofText_eq_ok secondParsed).2, List.head?_map] at isFirst
    obtain ⟨token, isFirstToken, rfl⟩ := Option.map_eq_some_iff.1 isFirst
    exact unlike token isFirstToken
  have joined :=
    firstReads.append fun final isLast =>
      have ending :=
        Stack.allows_endOfInput_of_journey
          (Stack.journey_program (ProgramDerivation.ofStatements statements)) isLast
      secondReads.resume ending unlikeLexeme
  apply Parsed.exists_ofText_eq_ok_iff_reads.2
  simp only [ProgramDerivation.trail_ofStatements, ProgramDerivation.lexemes_ofStatements,
    List.flatMap_append] at joined ⊢
  simpa using joined

/-! ## Running joined programs -/

theorem Node.visit_append (context : Context) (nodes more : List Node) :
    visit context (nodes ++ more) = visit context nodes >>= fun _ => visit context more := by
  induction nodes with
  | nil =>
      rw [List.nil_append, visit, pure_bind]
  | cons first rest inductionHypothesis =>
      rw [List.cons_append, visit, visit, bind_assoc]
      simp only [inductionHypothesis]

/-- An outcome with the effects of two others, one after the other. -/
theorem Outcome.cases_of_effect_eq_bind
    {α β γ : Type} {whole : Outcome α} {first : Outcome β} {second : Outcome γ}
    (sequence : whole.effect = first.effect >>= fun _ => second.effect) :
    (∀ value, first.result = .ok value →
      whole.output = first.output ++ second.output ∧
        ∀ fault, whole.result = .error fault ↔ second.result = .error fault) ∧
      ∀ fault, first.result = .error fault →
        whole.output = first.output ∧ whole.result = .error fault := by
  constructor
  · intro value succeeded
    rw [effect_eq_of_ok succeeded, bind_eq_of_ok rfl] at sequence
    constructor
    · rw [← effect_output whole, sequence, ← effect_output second]
    · intro fault
      have sameResult : whole.effect.result = second.effect.result := by rw [sequence]
      calc
        whole.result = .error fault
        _ ↔ whole.effect.result = .error fault := effect_result_eq_error_iff.symm
        _ ↔ second.effect.result = .error fault := by rw [sameResult]
        _ ↔ second.result = .error fault := effect_result_eq_error_iff
  · intro fault failed
    rw [effect_eq_of_error failed, bind_eq_of_error rfl] at sequence
    constructor
    · rw [← effect_output whole, sequence]
    · rw [← effect_result_eq_error_iff, sequence]

namespace Program

/-- Running a body writes what its statements write and has their faults, also when it is a single
statement that stands for itself. -/
theorem effect_evaluate_unwrapped (context : Context) (children : List Node) :
    ((unwrapped (Node.plain .body children)).evaluate context).effect =
      Node.visit context children := by
  have whole :
      ((Node.plain .body children).evaluate context).effect = Node.visit context children := by
    rw [Node.plain, Node.evaluate_body, Outcome.effect, bind_assoc]
    simp only [pure_bind]
    exact bind_pure _
  cases children with
  | nil => exact whole
  | cons statement others =>
      cases others with
      | cons second others => exact whole
      | nil =>
          have single :
              Node.visit context [statement] = (statement.evaluate context).effect := by
            rw [Node.visit, Outcome.effect]
            rfl
          exact single.symm

/-- Two programs with a line break between them are one program, unless the second one starts with
the word `else`: its statements are those of the first and then those of the second, and it
writes and fails as the first does and then, unless that failed, as the second does. -/
theorem run_joined
    {first second : String} {firstTree secondTree : Node}
    (firstAccepted : Program.tree first = .ok firstTree)
    (secondAccepted : Program.tree second = .ok secondTree)
    (unlike :
      ∀ parsed token,
        Parsed.ofText second = .ok parsed → parsed.tokens.head? = some token →
          token.text ≠ "else") :
    Program.tree (first ++ "\n" ++ second) =
        .ok (Node.plain .body (firstTree.children ++ secondTree.children)) ∧
      ∀ context, ∃ firstRun secondRun joinedRun,
        Program.run first context = .ok firstRun ∧
          Program.run second context = .ok secondRun ∧
          Program.run (first ++ "\n" ++ second) context = .ok joinedRun ∧
          (∀ value, firstRun.result = .ok value →
            joinedRun.output = firstRun.output ++ secondRun.output ∧
              ∀ fault, joinedRun.result = .error fault ↔ secondRun.result = .error fault) ∧
          ∀ fault, firstRun.result = .error fault →
            joinedRun.output = firstRun.output ∧ joinedRun.result = .error fault := by
  obtain ⟨tokens, statements, firstParsed, rfl⟩ := exists_statements_of_tree_eq_ok firstAccepted
  obtain ⟨moreTokens, others, secondParsed, rfl⟩ :=
    exists_statements_of_tree_eq_ok secondAccepted
  obtain ⟨allTokens, joinedParsed⟩ :=
    Parsed.ofText_joined firstParsed secondParsed fun token => unlike _ token secondParsed
  have joinedAccepted := tree_of_ofText_eq_ok joinedParsed
  rw [List.map_append] at joinedAccepted
  refine ⟨joinedAccepted, fun context => ?_⟩
  refine
    ⟨_, _, _, run_of_tree_eq_ok firstAccepted context, run_of_tree_eq_ok secondAccepted context,
      run_of_tree_eq_ok joinedAccepted context, ?_⟩
  apply Outcome.cases_of_effect_eq_bind
  rw [effect_evaluate_unwrapped, effect_evaluate_unwrapped, effect_evaluate_unwrapped]
  exact Node.visit_append context _ _

/-- The second program starts with a name that starts with the letters of `else`, below an `if`
without one. The first program writes a number, and the second one fails. -/
theorem run_joined_of_conditional :
    ∃ (firstTree secondTree : Node) (joinedRun : Outcome Value),
      Program.tree "if (1 < 2) \x7bprint(1);\x7d" = .ok firstTree ∧
        firstTree.children =
          [.plain .conditional
            [.comparison (.named .number "1") .less (.named .number "2"),
              .plain .clause [.plain .print [.named .number "1"]], .plain .null []]] ∧
        Program.tree "elsewhere; print(2 / 0);" = .ok secondTree ∧
        secondTree.children =
          [.named .idNum "elsewhere",
            .plain .print [.plain .div [.named .number "2", .named .number "0"]]] ∧
        Program.tree "if (1 < 2) \x7bprint(1);\x7d\nelsewhere; print(2 / 0);" =
          .ok (Node.plain .body (firstTree.children ++ secondTree.children)) ∧
        Program.run "if (1 < 2) \x7bprint(1);\x7d\nelsewhere; print(2 / 0);" none =
          .ok joinedRun ∧
        joinedRun.output = ["1"] ∧ joinedRun.result = .error .divisionByZero := by
  have firstAccepted :
      Program.tree "if (1 < 2) \x7bprint(1);\x7d" =
        .ok (.plain .body
          [.plain .conditional
            [.comparison (.named .number "1") .less (.named .number "2"),
              .plain .clause [.plain .print [.named .number "1"]], .plain .null []]]) := by
    decide +kernel
  have secondAccepted :
      Program.tree "elsewhere; print(2 / 0);" =
        .ok (.plain .body
          [.named .idNum "elsewhere",
            .plain .print [.plain .div [.named .number "2", .named .number "0"]]]) := by
    decide +kernel
  have firstWord :
      ((Parsed.ofText "elsewhere; print(2 / 0);").toOption.bind fun parsed =>
        parsed.tokens.head?.map Token.text) = some "elsewhere" := by
    decide +kernel
  have joined := run_joined firstAccepted secondAccepted fun parsed token accepted isFirst => by
    have spelled : some token.text = some "elsewhere" := by
      rw [← firstWord, accepted]
      simp [Except.toOption, isFirst]
    rw [Option.some.inj spelled]
    decide
  obtain ⟨firstRun, secondRun, joinedRun, firstRan, secondRan, joinedRan, afterFirst, _⟩ :=
    joined.2 none
  rw [run_of_tree_eq_ok firstAccepted] at firstRan
  rw [run_of_tree_eq_ok secondAccepted] at secondRan
  cases firstRan
  cases secondRan
  obtain ⟨output, fails⟩ := afterFirst .null (by decide +kernel)
  refine ⟨_, _, joinedRun, firstAccepted, rfl, secondAccepted, rfl, joined.1, joinedRan, ?_, ?_⟩
  · rw [output]
    decide +kernel
  · rw [fails]
    decide +kernel

end Program

end Scriptlet
