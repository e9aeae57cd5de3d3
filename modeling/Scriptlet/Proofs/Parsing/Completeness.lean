import Scriptlet.Proofs.Lexing.Spacing
import Scriptlet.Proofs.Parsing.Reading

/-!
# Completeness of parsing

Every derivation is found again from its lexemes: its journey ends with it. The lexemes are written
out with one blank between neighbours, and parsing that text drives the automaton along them.
-/

namespace Scriptlet

namespace Stack

/-! ## Driving the automaton along lexemes -/

/-- The program that the automaton finds when it reads the given lexemes, if it accepts them. -/
def drive : List Frame → List Lexeme → Option ProgramDerivation
  | stack, [] =>
      match settle .endOfInput stack with
      | .accept program => some program
      | _ => none
  | stack, (terminal, text) :: rest =>
      match settle terminal stack with
      | .shift target settled =>
          drive (⟨target, .terminal terminal, .leaf terminal text⟩ :: settled) rest
      | _ => none

theorem drive_eq_map_journey (stack : List Frame) (lexemes : List Lexeme) :
    drive stack lexemes = (journey stack lexemes).map Prod.snd := by
  induction lexemes generalizing stack with
  | nil =>
      rw [drive, journey]
      cases settle .endOfInput stack <;> rfl
  | cons lexeme rest inductionHypothesis =>
      rw [drive, journey]
      cases settle lexeme.1 stack with
      | shift target settled =>
          dsimp only
          rw [inductionHypothesis, prepend, Option.map_map]
          rfl
      | accept program => rfl
      | reject reduced => rfl
      | stuck => rfl

theorem drive_program (derivation : ProgramDerivation) :
    drive [] derivation.lexemes = some derivation := by
  rw [drive_eq_map_journey, journey_program]
  rfl

end Stack

/-! ## Lexemes written with blanks between them -/

/-- A lexeme that is a full match of its terminal and, if it is a name, no reserved word. -/
def Lexeme.Proper (lexeme : Lexeme) : Prop :=
  lexeme.Fits ∧ (lexeme.1 = .ident → ∀ word : Keyword, lexeme.2.toList ≠ word.spelling)

/-- The texts of lexemes in order, with one blank between neighbours. -/
def spaced (lexemes : List Lexeme) : String :=
  " ".intercalate (lexemes.map Prod.snd)

/-- The characters of lexemes with one blank between neighbours, and `lead` before the first. -/
def spacedAfter : (lead : List Char) → List Lexeme → List Char
  | _, [] => []
  | lead, lexeme :: rest => lead ++ (lexeme.2.toList ++ spacedAfter [' '] rest)

theorem toList_spaced (lexemes : List Lexeme) :
    (spaced lexemes).toList = spacedAfter [] lexemes := by
  unfold spaced
  rw [String.toList_intercalate]
  induction lexemes with
  | nil => rfl
  | cons first rest inductionHypothesis =>
      cases rest with
      | nil => simp [spacedAfter]
      | cons second rest =>
          simp only [List.map_cons, List.intercalate_cons_cons] at inductionHypothesis ⊢
          rw [inductionHypothesis]
          simp [spacedAfter]

theorem parted_spacedAfter (lexemes : List Lexeme) :
    Lexing.Parted (spacedAfter [' '] lexemes) := by
  cases lexemes with
  | nil => simp [Lexing.Parted, spacedAfter]
  | cons lexeme rest => simp [Lexing.Parted, spacedAfter, Lexing.isSpace]

/-! ## Parsing spaced lexemes -/

namespace Parsing

/-- Parsing reads a proper lexeme that stands before a blank and that the stack lets shift. -/
theorem parseFrom_lexeme_append
    {stack settled : List Frame} {read : List Token} {place : Nat} {lead rest : List Char}
    {lexeme : Lexeme} {target : Automaton.State}
    (blank : lead = [] ∨ lead = [' '])
    (proper : lexeme.Proper)
    (parted : Lexing.Parted rest)
    (shifted : Stack.settle lexeme.1 stack = .shift target settled) :
    parseFrom stack read place (lead ++ (lexeme.2.toList ++ rest)) =
      parseFrom (⟨target, .terminal lexeme.1, .leaf lexeme.1 lexeme.2⟩ :: settled)
        (⟨lexeme.1, lexeme.2, place + lead.length⟩ :: read)
        (place + lead.length + lexeme.2.toList.length) rest := by
  obtain ⟨fits, unreserved⟩ := proper
  have gapEmpty := Lexing.gap_lexeme_append fits parted
  have gapLead : Lexing.gap (lead ++ (lexeme.2.toList ++ rest)) = lead := by
    rcases blank with rfl | rfl
    · exact gapEmpty
    · rw [List.singleton_append, Lexing.gap_space_cons _ (by decide), gapEmpty]
  have remaining :
      Lexing.afterGap (lead ++ (lexeme.2.toList ++ rest)) = lexeme.2.toList ++ rest := by
    rw [Lexing.afterGap, gapLead, List.drop_left]
  have scanned :
      Lexing.scan (Automaton.allows (Stack.state stack))
          (Lexing.afterGap (lead ++ (lexeme.2.toList ++ rest))) =
        some (lexeme.1, lexeme.2.toList) := by
    rw [remaining]
    exact Lexing.scan_append fits (Stack.allows_of_settle_shift shifted) unreserved parted
  rw [parseFrom_of_scan scanned shifted, gapLead, remaining, List.drop_left]

/-- Parsing spaced lexemes finds the program that the automaton accepts when driven along
them. -/
theorem parseFrom_spacedAfter
    {lexemes : List Lexeme} {stack : List Frame} {read : List Token} {place : Nat}
    {lead : List Char} {program : ProgramDerivation}
    (blank : lead = [] ∨ lead = [' '])
    (proper : ∀ lexeme ∈ lexemes, lexeme.Proper)
    (driven : Stack.drive stack lexemes = some program) :
    ∃ tokens, parseFrom stack read place (spacedAfter lead lexemes) = .ok ⟨tokens, program⟩ := by
  induction lexemes generalizing stack read place lead with
  | nil =>
      rw [Stack.drive] at driven
      split at driven
      · next found accepted =>
          cases driven
          refine ⟨read.reverse, ?_⟩
          rw [spacedAfter, parseFrom_of_afterGap_eq_nil rfl, finish, accepted]
      · cases driven
  | cons lexeme rest inductionHypothesis =>
      obtain ⟨properFirst, properRest⟩ := List.forall_mem_cons.1 proper
      rw [Stack.drive] at driven
      split at driven
      · next target settled shifted =>
          rw [spacedAfter,
            parseFrom_lexeme_append blank properFirst (parted_spacedAfter rest) shifted]
          exact inductionHypothesis (.inr rfl) properRest driven
      · cases driven

end Parsing

theorem Parsed.ofText_spaced
    (derivation : ProgramDerivation)
    (proper : ∀ lexeme ∈ derivation.lexemes, lexeme.Proper) :
    ∃ tokens, Parsed.ofText (spaced derivation.lexemes) = .ok ⟨tokens, derivation⟩ := by
  unfold Parsed.ofText
  rw [toList_spaced]
  exact Parsing.parseFrom_spacedAfter (.inl rfl) proper (Stack.drive_program derivation)

namespace Program

/-- Every derivation of a program is found again from its lexemes, written with one blank between
neighbours: the text is accepted with the tree that the handlers of the derivation put together,
and no other derivation has the same text. -/
theorem tree_spaced_eq_ok
    (derivation : ProgramDerivation)
    (proper : ∀ lexeme ∈ derivation.lexemes, lexeme.Proper) :
    (∃ tree,
      Program.tree (spaced derivation.lexemes) = .ok tree ∧
        derivation.handUp .compact = some [.node tree]) ∧
      ∀ other : ProgramDerivation,
        (∀ lexeme ∈ other.lexemes, lexeme.Proper) →
        spaced other.lexemes = spaced derivation.lexemes →
        other = derivation := by
  obtain ⟨tokens, parsed⟩ := Parsed.ofText_spaced derivation proper
  constructor
  · have fits : ∀ lexeme ∈ derivation.lexemes, lexeme.Fits :=
      fun lexeme member => (proper lexeme member).1
    refine ⟨derivation.lower .compact, ?_, derivation.handUp_eq_pieces_lower .compact fits⟩
    rw [Program.tree, parsed]
    rfl
  · intro other properOther sameText
    obtain ⟨otherTokens, parsedOther⟩ := Parsed.ofText_spaced other properOther
    rw [sameText, parsed] at parsedOther
    cases parsedOther
    rfl

theorem tree_spaced_of_membership :
    ∃ derivation : ProgramDerivation,
      derivation.lexemes =
          [(.ident, "x"), (.keyword .notWord, "not"), (.keyword .inWord, "in"),
            (.mark .leftBracket, "["), (.number, "1"), (.mark .rightBracket, "]"),
            (.mark .semicolon, ";")] ∧
        (∀ lexeme ∈ derivation.lexemes, lexeme.Proper) ∧
        ∃ tree,
          Program.tree (spaced derivation.lexemes) = .ok tree ∧
            derivation.handUp .compact = some [.node tree] := by
  have found :
      ((Parsed.ofText "x not in[1];").toOption.map (·.derivation.lexemes)) =
        some
          [(.ident, "x"), (.keyword .notWord, "not"), (.keyword .inWord, "in"),
            (.mark .leftBracket, "["), (.number, "1"), (.mark .rightBracket, "]"),
            (.mark .semicolon, ";")] := by
    decide +kernel
  cases parsed : Parsed.ofText "x not in[1];" with
  | error error =>
      rw [parsed] at found
      cases found
  | ok result =>
      rw [parsed] at found
      have lexemes : result.derivation.lexemes = _ := Option.some.inj found
      have proper : ∀ lexeme ∈ result.derivation.lexemes, lexeme.Proper := by
        intro lexeme member
        refine ⟨Parsed.fits_of_ofText_eq_ok parsed lexeme member, fun isName word => ?_⟩
        simp only [lexemes, List.mem_cons, List.not_mem_nil, or_false] at member
        rcases member with rfl | rfl | rfl | rfl | rfl | rfl | rfl <;>
          first
          | exact absurd isName (by decide)
          | cases word <;> decide
      exact ⟨result.derivation, lexemes, proper, (tree_spaced_eq_ok _ proper).1⟩

end Program

end Scriptlet
