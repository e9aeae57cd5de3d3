import Scriptlet.Program
import Scriptlet.Proofs.Grammar.Handler
import Scriptlet.Proofs.Parsing.Settling

/-!
# Soundness of parsing

Parsing cuts a text into tokens and gaps and finds a derivation of exactly these tokens.
-/

namespace Scriptlet

/-! ## Tokens laid out in a text -/

/-- A text from a place on, cut into tokens: before each token and after the last one stands a
gap, every token is a full match of its terminal, and it starts where its gap ends. -/
inductive Laid : Nat → List Token → List Char → Prop
  | last {place : Nat} {gap : List Char} :
      gap ∈ Lexing.gaps → Laid place [] gap
  | next {place : Nat} {gap rest : List Char} {token : Token} {tokens : List Token} :
      gap ∈ Lexing.gaps →
      token.lexeme.Fits →
      token.start = place + gap.length →
      Laid token.stop tokens rest →
      Laid place (token :: tokens) (gap ++ token.text.toList ++ rest)

namespace Parsing

/-- What parsing a text from a place on may result in, after the given tokens were read. -/
def Faithful
    (read : List Token) (place : Nat) (text : List Char) :
    Except SyntaxError Parsed → Prop
  | .ok parsed =>
      ∃ tokens,
        parsed.tokens = read.reverse ++ tokens ∧ Laid place tokens text ∧
          parsed.derivation.lexemes = parsed.tokens.map Token.lexeme
  | .error error => error ≠ .stuck

theorem misreading_ne_stuck
    (stack : List Frame) (previous : Option Token) (place : Nat) (character : Char)
    (text : List Char) :
    misreading stack previous place character text ≠ .stuck := by
  unfold misreading
  split <;> simp

theorem finish_faithful
    {stack : List Frame} {read : List Token} {place : Nat} {text : List Char}
    (linked : Stack.Linked stack)
    (sameLexemes : Stack.lexemes stack = read.reverse.map Token.lexeme)
    (onlyGap : text ∈ Lexing.gaps) :
    Faithful read place text (finish stack read) := by
  have kept := Stack.settle_keeps .endOfInput linked
  unfold finish
  split
  · next program accepted =>
      rw [accepted] at kept
      refine ⟨[], (List.append_nil _).symm, .last onlyGap, ?_⟩
      exact kept.2.trans sameLexemes
  · exact SyntaxError.noConfusion
  · next target settled shifted =>
      rw [shifted] at kept
      have impossible := kept.2.2
      rw [Automaton.next?_endOfInput] at impossible
      cases impossible
  · next stuck =>
      rw [stuck] at kept
      exact kept.elim

theorem Faithful.of_next
    {read : List Token} {place : Nat} {gap rest : List Char} {token : Token}
    {result : Except SyntaxError Parsed}
    (gapMember : gap ∈ Lexing.gaps)
    (fits : token.lexeme.Fits)
    (starts : token.start = place + gap.length)
    (faithful : Faithful (token :: read) token.stop rest result) :
    Faithful read place (gap ++ token.text.toList ++ rest) result := by
  cases result with
  | error error => exact faithful
  | ok parsed =>
      obtain ⟨tokens, allTokens, laid, sameLexemes⟩ := faithful
      have sameTokens : parsed.tokens = read.reverse ++ token :: tokens := by
        simpa using allTokens
      exact ⟨token :: tokens, sameTokens, .next gapMember fits starts laid, sameLexemes⟩

/-- Parsing from a linked stack never gets stuck, and a derivation that it finds is one of the
tokens that the text was cut into. The induction is on the length of the text. -/
theorem parseFrom_faithful
    {stack : List Frame} {read : List Token} {place : Nat} {text : List Char}
    (linked : Stack.Linked stack)
    (sameLexemes : Stack.lexemes stack = read.reverse.map Token.lexeme) :
    Faithful read place text (parseFrom stack read place text) := by
  induction size : text.length using Nat.strongRecOn generalizing stack read place text with
  | _ bound inductionHypothesis =>
      subst size
      have whole := Lexing.gap_append_afterGap text
      have gapMember := Lexing.gap_mem_gaps text
      unfold parseFrom
      dsimp only
      split
      · next atEnd =>
          rw [atEnd, List.append_nil] at whole
          exact finish_faithful linked sameLexemes (whole ▸ gapMember)
      · next character rest remaining =>
          split
          · exact misreading_ne_stuck stack _ _ _ _
          · next terminal lexeme scanned =>
              obtain ⟨matched, _⟩ := Lexing.scan_mem_pattern scanned
              obtain ⟨after, parted⟩ := (Lexing.scan_prefix_of_eq_some scanned).2
              have shorter := Lexing.length_drop_lexeme_lt remaining scanned
              have kept := Stack.settle_keeps terminal linked
              let token : Token :=
                ⟨terminal, String.ofList lexeme, place + (Lexing.gap text).length⟩
              have stops : token.stop = place + (Lexing.gap text).length + lexeme.length := by
                simp [Token.stop, token]
              have fits : token.lexeme.Fits := by
                simpa [Lexeme.Fits, Token.lexeme, token] using matched
              split
              · next target settled shifted =>
                  rw [shifted] at kept
                  obtain ⟨linkedSettled, sameSettled, enters⟩ := kept
                  rw [← parted, List.drop_left] at shorter ⊢
                  rw [← stops]
                  let pushed : List Frame :=
                    ⟨target, .terminal terminal, .leaf terminal token.text⟩ :: settled
                  have linkedPushed : Stack.Linked pushed := ⟨enters, linkedSettled⟩
                  have samePushed :
                      Stack.lexemes pushed = (token :: read).reverse.map Token.lexeme := by
                    simp [pushed, Stack.lexemes, sameSettled, sameLexemes, Derivation.lexemes,
                      Token.lexeme, token]
                  have fromHere :
                      Faithful (token :: read) token.stop after
                        (parseFrom pushed (token :: read) token.stop after) :=
                    inductionHypothesis after.length shorter linkedPushed samePushed rfl
                  have wholeText : Lexing.gap text ++ token.text.toList ++ after = text := by
                    rw [String.toList_ofList, List.append_assoc, parted, ← remaining, whole]
                  have fromGap := Faithful.of_next gapMember fits rfl fromHere
                  rwa [wholeText] at fromGap
              · exact SyntaxError.noConfusion
              · next program accepted =>
                  rw [accepted] at kept
                  obtain ⟨rfl, _⟩ := kept
                  cases matched
              · next stuck =>
                  rw [stuck] at kept
                  exact kept.elim

end Parsing

/-! ## Whole texts -/

theorem Parsed.ofText_faithful (source : String) :
    Parsing.Faithful [] 0 source.toList (Parsed.ofText source) :=
  Parsing.parseFrom_faithful trivial rfl

theorem Laid.fits
    {place : Nat} {tokens : List Token} {text : List Char}
    (laid : Laid place tokens text) :
    ∀ lexeme ∈ tokens.map Token.lexeme, lexeme.Fits := by
  induction laid with
  | last _ => simp
  | next _ fits _ _ inductionHypothesis =>
      intro lexeme member
      rcases List.mem_cons.1 member with rfl | later
      · exact fits
      · exact inductionHypothesis lexeme later

theorem Parsed.laid_of_ofText_eq_ok
    {source : String} {parsed : Parsed}
    (succeeded : Parsed.ofText source = .ok parsed) :
    Laid 0 parsed.tokens source.toList ∧
      parsed.derivation.lexemes = parsed.tokens.map Token.lexeme := by
  have faithful := Parsed.ofText_faithful source
  rw [succeeded] at faithful
  obtain ⟨tokens, allTokens, laid, sameLexemes⟩ := faithful
  rw [List.reverse_nil, List.nil_append] at allTokens
  exact ⟨allTokens ▸ laid, sameLexemes⟩

/-- Every lexeme of a parsed program is a full match of its terminal. -/
theorem Parsed.fits_of_ofText_eq_ok
    {source : String} {parsed : Parsed}
    (succeeded : Parsed.ofText source = .ok parsed) :
    ∀ lexeme ∈ parsed.derivation.lexemes, lexeme.Fits := by
  obtain ⟨laid, sameLexemes⟩ := Parsed.laid_of_ofText_eq_ok succeeded
  rw [sameLexemes]
  exact laid.fits

/-- It is the lexeme of one of the program's tokens. -/
theorem Parsed.exists_token_of_mem_lexemes
    {source : String} {parsed : Parsed} {lexeme : Lexeme}
    (succeeded : Parsed.ofText source = .ok parsed)
    (member : lexeme ∈ parsed.derivation.lexemes) :
    ∃ token ∈ parsed.tokens, token.lexeme = lexeme ∧ lexeme.Fits := by
  have fits := Parsed.fits_of_ofText_eq_ok succeeded lexeme member
  rw [(Parsed.laid_of_ofText_eq_ok succeeded).2] at member
  obtain ⟨token, tokenMember, same⟩ := List.mem_map.1 member
  exact ⟨token, tokenMember, same, fits⟩

namespace Program

/-- The tree of an accepted text: the text is cut into tokens and gaps, the tokens are the
lexemes of a derivation of a program, and the handlers of its productions put it together to
that tree. -/
theorem exists_derivation_of_tree_eq_ok
    {source : String} {tree : Node}
    (accepted : Program.tree source = .ok tree) :
    ∃ (tokens : List Token) (derivation : ProgramDerivation),
      Laid 0 tokens source.toList ∧
        derivation.lexemes = tokens.map Token.lexeme ∧
        derivation.handUp .compact = some [.node tree] := by
  unfold Program.tree at accepted
  split at accepted
  · next parsed succeeded =>
      cases accepted
      obtain ⟨laid, sameLexemes⟩ := Parsed.laid_of_ofText_eq_ok succeeded
      refine ⟨parsed.tokens, parsed.derivation, laid, sameLexemes, ?_⟩
      exact parsed.derivation.handUp_eq_pieces_lower .compact
        (Parsed.fits_of_ofText_eq_ok succeeded)
  · cases accepted

/-- A text with a comment, an `in` that touches its neighbours, and a chain of sums. -/
theorem exists_derivation_of_membership :
    ∃ (source : String) (tree : Node),
      source = "// a\nprintln(1inx || !f(a - 2 + 3), \"b\");" ∧
        Program.tree source = .ok tree ∧
        ∃ (tokens : List Token) (derivation : ProgramDerivation),
          Laid 0 tokens source.toList ∧
            derivation.lexemes = tokens.map Token.lexeme ∧
            derivation.handUp .compact = some [.node tree] := by
  have succeeds :
      (Program.tree "// a\nprintln(1inx || !f(a - 2 + 3), \"b\");").isOk = true := by
    decide +kernel
  cases accepted : Program.tree "// a\nprintln(1inx || !f(a - 2 + 3), \"b\");" with
  | ok tree => exact ⟨_, tree, rfl, accepted, exists_derivation_of_tree_eq_ok accepted⟩
  | error error =>
      rw [accepted] at succeeds
      cases succeeds

end Program

end Scriptlet
