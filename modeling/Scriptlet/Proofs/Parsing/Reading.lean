import Scriptlet.Proofs.Parsing.Journey

/-!
# Reading a text along states

Parsing alternates between reading a lexeme and moving the automaton. Both can be told apart: a
journey moves the automaton along lexemes alone, and a text is read along states alone. A text is
parsed to a derivation exactly if its lexemes can be read off the text along its trail, and the
tokens that parsing keeps are cut off the text at their places.
-/

namespace Scriptlet

/-- A text that is read lexeme by lexeme along states. In every state but the last one the scanner
finds the next lexeme behind the gap, among the terminals that the state allows; in the last state
only a gap is left. -/
inductive Reads : List Automaton.State → List Lexeme → List Char → Prop
  | last {state : Automaton.State} {text : List Char} :
      Lexing.afterGap text = [] →
      Reads [state] [] text
  | next {state : Automaton.State} {states : List Automaton.State}
      {lexeme : Lexeme} {lexemes : List Lexeme} {text : List Char} :
      Lexing.scan (Automaton.allows state) (Lexing.afterGap text) =
        some (lexeme.1, lexeme.2.toList) →
      Reads states lexemes ((Lexing.afterGap text).drop lexeme.2.toList.length) →
      Reads (state :: states) (lexeme :: lexemes) text

/-- Reading depends on a text only from its first lexeme on. -/
theorem Reads.congr
    {states : List Automaton.State} {lexemes : List Lexeme} {text other : List Char}
    (reads : Reads states lexemes text)
    (same : Lexing.afterGap text = Lexing.afterGap other) :
    Reads states lexemes other := by
  cases reads with
  | last atEnd => exact .last (same ▸ atEnd)
  | next scanned rest =>
      rw [same] at scanned rest
      exact .next scanned rest

/-- A text from a place on that is cut into tokens along states: it is read lexeme by lexeme, and
every token starts where the gap before it ends. -/
inductive Cut : List Automaton.State → Nat → List Token → List Char → Prop
  | last {state : Automaton.State} {place : Nat} {text : List Char} :
      Lexing.afterGap text = [] →
      Cut [state] place [] text
  | next {state : Automaton.State} {states : List Automaton.State} {place : Nat}
      {token : Token} {tokens : List Token} {text : List Char} :
      Lexing.scan (Automaton.allows state) (Lexing.afterGap text) =
        some (token.terminal, token.text.toList) →
      token.start = place + (Lexing.gap text).length →
      Cut states token.stop tokens ((Lexing.afterGap text).drop token.text.toList.length) →
      Cut (state :: states) place (token :: tokens) text

theorem Cut.reads
    {states : List Automaton.State} {place : Nat} {tokens : List Token} {text : List Char}
    (cut : Cut states place tokens text) :
    Reads states (tokens.map Token.lexeme) text := by
  induction cut with
  | last atEnd => exact .last atEnd
  | next scanned _ _ inductionHypothesis => exact .next scanned inductionHypothesis

/-- A lexeme that was read is not empty and stands at the start of the text. -/
theorem Lexing.exists_afterGap_of_scan
    {allowed : Terminal → Bool} {text lexeme : List Char} {terminal : Terminal}
    (scanned : scan allowed (afterGap text) = some (terminal, lexeme)) :
    ∃ character more, afterGap text = character :: more := by
  obtain ⟨nonempty, begins⟩ := scan_prefix_of_eq_some scanned
  cases remaining : afterGap text with
  | nil =>
      rw [remaining] at begins
      exact absurd (List.prefix_nil.1 begins) nonempty
  | cons character more => exact ⟨character, more, rfl⟩

namespace Parsing

/-! ## One step of parsing -/

theorem parseFrom_of_afterGap_eq_nil
    {stack : List Frame} {read : List Token} {place : Nat} {text : List Char}
    (atEnd : Lexing.afterGap text = []) :
    parseFrom stack read place text = finish stack read := by
  rw [parseFrom]
  dsimp only
  split
  · rfl
  · next remaining =>
      rw [atEnd] at remaining
      cases remaining

theorem parseFrom_of_scan
    {stack settled : List Frame} {read : List Token} {place : Nat} {text : List Char}
    {lexeme : Lexeme} {target : Automaton.State}
    (scanned :
      Lexing.scan (Automaton.allows (Stack.state stack)) (Lexing.afterGap text) =
        some (lexeme.1, lexeme.2.toList))
    (shifted : Stack.settle lexeme.1 stack = .shift target settled) :
    parseFrom stack read place text =
      parseFrom (⟨target, .terminal lexeme.1, .leaf lexeme.1 lexeme.2⟩ :: settled)
        (⟨lexeme.1, lexeme.2, place + (Lexing.gap text).length⟩ :: read)
        (place + (Lexing.gap text).length + lexeme.2.toList.length)
        ((Lexing.afterGap text).drop lexeme.2.toList.length) := by
  obtain ⟨first, more, begins⟩ := Lexing.exists_afterGap_of_scan scanned
  rw [parseFrom]
  dsimp only
  split
  · next atEnd =>
      rw [begins] at atEnd
      cases atEnd
  · next character rest remaining =>
      rw [remaining] at scanned ⊢
      split
      · next unread =>
          rw [scanned] at unread
          cases unread
      · next terminal text found =>
          rw [scanned] at found
          cases found
          rw [shifted]
          simp only [String.ofList_toList]

/-- What parsing has done when it succeeds: at the end of the text the stack was accepted, and
anywhere else a lexeme was read and shifted before the rest was parsed. -/
theorem parseFrom_cases
    {stack : List Frame} {read : List Token} {place : Nat} {text : List Char} {parsed : Parsed}
    (succeeded : parseFrom stack read place text = .ok parsed) :
    (Lexing.afterGap text = [] ∧
        Stack.settle .endOfInput stack = .accept parsed.derivation ∧
        parsed.tokens = read.reverse) ∨
      ∃ (token : Token) (target : Automaton.State) (settled : List Frame),
        Lexing.scan (Automaton.allows (Stack.state stack)) (Lexing.afterGap text) =
            some (token.terminal, token.text.toList) ∧
          token.start = place + (Lexing.gap text).length ∧
          Stack.settle token.terminal stack = .shift target settled ∧
          parseFrom (⟨target, .terminal token.terminal, .leaf token.terminal token.text⟩ :: settled)
              (token :: read) token.stop
              ((Lexing.afterGap text).drop token.text.toList.length) =
            .ok parsed := by
  rw [parseFrom] at succeeded
  dsimp only at succeeded
  split at succeeded
  · next atEnd =>
      left
      unfold finish at succeeded
      split at succeeded
      · next program accepted =>
          cases succeeded
          exact ⟨atEnd, accepted, rfl⟩
      all_goals cases succeeded
  · next character rest remaining =>
      split at succeeded
      · cases succeeded
      · next terminal lexeme scanned =>
          split at succeeded
          · next target settled shifted =>
              right
              rw [← remaining] at scanned succeeded
              let token : Token :=
                ⟨terminal, String.ofList lexeme, place + (Lexing.gap text).length⟩
              have spelled : token.text.toList = lexeme := String.toList_ofList
              have stops : token.stop = place + (Lexing.gap text).length + lexeme.length := by
                rw [← spelled, String.length_toList]
                rfl
              refine ⟨token, target, settled, ?_, rfl, shifted, ?_⟩
              · rw [spelled]
                exact scanned
              · rw [spelled, stops]
                exact succeeded
          all_goals cases succeeded

/-! ## Whole runs of parsing -/

/-- Parsing that succeeds has read its tokens off the text along the states of a journey. The
induction is on the length of the text. -/
theorem exists_cut_of_parseFrom
    {stack : List Frame} {read : List Token} {place : Nat} {text : List Char} {parsed : Parsed}
    (succeeded : parseFrom stack read place text = .ok parsed) :
    ∃ states tokens,
      Stack.journey stack (tokens.map Token.lexeme) = some (states, parsed.derivation) ∧
        Cut (Stack.state stack :: states) place tokens text ∧
        parsed.tokens = read.reverse ++ tokens := by
  induction size : text.length using Nat.strongRecOn generalizing stack read place text with
  | _ bound inductionHypothesis =>
      rcases parseFrom_cases succeeded with
        ⟨atEnd, accepted, tokens⟩ | ⟨token, target, settled, scanned, starts, shifted, continued⟩
      · refine ⟨[], [], ?_, .last atEnd, ?_⟩
        · rw [List.map_nil, Stack.journey, accepted]
        · rw [tokens, List.append_nil]
      · have shorter :
            ((Lexing.afterGap text).drop token.text.toList.length).length < bound := by
          obtain ⟨first, more, remaining⟩ := Lexing.exists_afterGap_of_scan scanned
          rw [remaining] at scanned
          rw [← size, remaining]
          exact Lexing.length_drop_lexeme_lt remaining scanned
        obtain ⟨states, tokens, travelled, cut, allTokens⟩ :=
          inductionHypothesis _ shorter continued rfl
        refine ⟨target :: states, token :: tokens, ?_, .next scanned starts cut, ?_⟩
        · rw [List.map_cons, Token.lexeme, Stack.journey, shifted]
          dsimp only
          rw [travelled]
          rfl
        · rw [allTokens]
          simp

/-- A text that can be read along the states of a journey is parsed to the end of the journey. -/
theorem parseFrom_of_reads
    {stack : List Frame} {read : List Token} {place : Nat} {text : List Char}
    {states : List Automaton.State} {lexemes : List Lexeme} {program : ProgramDerivation}
    (travelled : Stack.journey stack lexemes = some (states, program))
    (reads : Reads (Stack.state stack :: states) lexemes text) :
    ∃ tokens, parseFrom stack read place text = .ok ⟨tokens, program⟩ := by
  induction lexemes generalizing stack read place text states with
  | nil =>
      cases reads with
      | last atEnd =>
          refine ⟨read.reverse, ?_⟩
          rw [Stack.journey] at travelled
          split at travelled
          · next found accepted =>
              cases travelled
              rw [parseFrom_of_afterGap_eq_nil atEnd, finish, accepted]
          · cases travelled
  | cons lexeme lexemes inductionHypothesis =>
      cases reads with
      | next scanned rest =>
          rw [Stack.journey] at travelled
          split at travelled
          · next target settled shifted =>
              obtain ⟨⟨entered, found⟩, continued, same⟩ := Option.map_eq_some_iff.1 travelled
              cases same
              rw [parseFrom_of_scan scanned shifted]
              exact inductionHypothesis continued rest
          · cases travelled

end Parsing

/-- The tokens of a parsed text are cut off it along the trail of the derivation. -/
theorem Parsed.cut_of_ofText_eq_ok
    {source : String} {parsed : Parsed}
    (succeeded : Parsed.ofText source = .ok parsed) :
    Cut (Automaton.start :: parsed.derivation.trail Automaton.start) 0 parsed.tokens
      source.toList := by
  obtain ⟨states, tokens, travelled, cut, allTokens⟩ := Parsing.exists_cut_of_parseFrom succeeded
  obtain ⟨_, sameLexemes⟩ := Parsed.laid_of_ofText_eq_ok succeeded
  rw [List.reverse_nil, List.nil_append] at allTokens
  subst allTokens
  rw [← sameLexemes, Stack.journey_program] at travelled
  cases travelled
  exact cut

/-- A text is parsed to a derivation exactly if the lexemes of the derivation can be read off it
along the trail of the derivation. -/
theorem Parsed.exists_ofText_eq_ok_iff_reads {source : String} {derivation : ProgramDerivation} :
    (∃ tokens, Parsed.ofText source = .ok ⟨tokens, derivation⟩) ↔
      Reads (Automaton.start :: derivation.trail Automaton.start) derivation.lexemes
        source.toList := by
  constructor
  · rintro ⟨tokens, succeeded⟩
    obtain ⟨_, sameLexemes⟩ := Parsed.laid_of_ofText_eq_ok succeeded
    have reads := (Parsed.cut_of_ofText_eq_ok succeeded).reads
    rw [← sameLexemes] at reads
    exact reads
  · intro reads
    exact Parsing.parseFrom_of_reads (Stack.journey_program derivation) reads

end Scriptlet
