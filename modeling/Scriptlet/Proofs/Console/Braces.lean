import Mathlib.Algebra.Ring.Int.Defs
import Mathlib.Data.Nat.Bits
import Scriptlet.Console.Buffer
import Scriptlet.Proofs.Parsing.Soundness

/-!
# Braces of programs

The depth of a text is counted character by character, with quotes as the only marks that hide a
brace. A program is made of tokens and of the gaps between them. Its tokens count as the grammar
has them: a literal hides its content, a block opens and closes one brace, nothing else holds any.
So the depth of a whole program is that of its gaps alone, provided that the quotes in each gap come
in pairs. The gaps count because their comments are not hidden, and a quote without a partner in a
comment turns what is hidden and what is not around.
-/

namespace Scriptlet

/-! ## Depths of joined texts -/

namespace Line

/-- What a character outside quotes adds to the depth. -/
def braceChange (c : Char) : Int :=
  if c = '{' then 1 else if c = '}' then -1 else 0

theorem depthFrom_quote (quoted : Bool) (rest : List Char) :
    depthFrom quoted ('"' :: rest) = depthFrom (!quoted) rest := by
  cases quoted <;> rfl

theorem depthFrom_true_cons
    {c : Char} (rest : List Char)
    (noQuote : c ≠ '"') :
    depthFrom true (c :: rest) = depthFrom true rest := by
  simp [depthFrom]

theorem depthFrom_false_cons
    {c : Char} (rest : List Char)
    (noQuote : c ≠ '"') :
    depthFrom false (c :: rest) = braceChange c + depthFrom false rest := by
  by_cases opens : c = '{'
  · subst opens
    rw [depthFrom, braceChange, if_pos rfl, Int.add_comm]
  · by_cases closes : c = '}'
    · subst closes
      rw [depthFrom, braceChange, if_neg opens, if_pos rfl]
      omega
    · simp [depthFrom, braceChange, opens, closes]

/-- The depth of two texts, one behind the other: an odd number of quotes in the first one turns
over whether the second one starts inside quotes. -/
theorem depthFrom_append (quoted : Bool) (front rest : List Char) :
    depthFrom quoted (front ++ rest) =
      depthFrom quoted front + depthFrom (quoted ^^ (front.count '"').bodd) rest := by
  induction front generalizing quoted with
  | nil => simp [depthFrom]
  | cons c front inductionHypothesis =>
      by_cases quote : c = '"'
      · subst quote
        rw [List.cons_append, depthFrom_quote, depthFrom_quote, inductionHypothesis,
          List.count_cons_self, Nat.bodd_succ]
        simp
      · rw [List.cons_append, List.count_cons_of_ne quote]
        cases quoted with
        | true =>
            rw [depthFrom_true_cons _ quote, depthFrom_true_cons _ quote, inductionHypothesis]
        | false =>
            rw [depthFrom_false_cons _ quote, depthFrom_false_cons _ quote, inductionHypothesis,
              Int.add_assoc]

/-- The quotes of a text come in pairs. -/
def PairedQuotes (text : List Char) : Prop :=
  text.count '"' % 2 = 0
  deriving Decidable

theorem depthFrom_append_of_paired
    {front : List Char} (rest : List Char)
    (paired : PairedQuotes front) :
    depthFrom false (front ++ rest) = depthFrom false front + depthFrom false rest := by
  have even : (front.count '"').bodd = false := by
    rw [PairedQuotes, Nat.mod_two_of_bodd] at paired
    exact Bool.toNat_eq_zero.1 paired
  rw [depthFrom_append, even, Bool.false_xor]

theorem depthFrom_true_of_unquoted
    {text : List Char}
    (unquoted : '"' ∉ text) :
    depthFrom true text = 0 := by
  induction text with
  | nil => rfl
  | cons c rest inductionHypothesis =>
      rw [List.mem_cons, not_or] at unquoted
      obtain ⟨noQuote, others⟩ := unquoted
      rw [depthFrom_true_cons rest (Ne.symm noQuote), inductionHypothesis others]

theorem depthFrom_false_of_plain
    {text : List Char}
    (plain : ∀ c ∈ text, c ≠ '"' ∧ c ≠ '{' ∧ c ≠ '}') :
    depthFrom false text = 0 := by
  induction text with
  | nil => rfl
  | cons c rest inductionHypothesis =>
      obtain ⟨⟨noQuote, noOpening, noClosing⟩, others⟩ := List.forall_mem_cons.1 plain
      rw [depthFrom_false_cons rest noQuote, inductionHypothesis others]
      simp [braceChange, noOpening, noClosing]

end Line

/-! ## Depths of lexemes -/

/-- What a token of a terminal adds to the depth. -/
def Terminal.braceChange : Terminal → Int
  | .mark .leftBrace => 1
  | .mark .rightBrace => -1
  | _ => 0

/-- A lexeme adds what its terminal does and leaves no quote open. -/
theorem Lexing.depthFrom_lexeme
    {terminal : Terminal} {lexeme : List Char}
    (fits : lexeme ∈ terminal.pattern) :
    Line.depthFrom false lexeme = terminal.braceChange ∧ Line.PairedQuotes lexeme := by
  have ofPlain :
      (∀ c ∈ lexeme, c ≠ '"' ∧ c ≠ '{' ∧ c ≠ '}') →
        Line.depthFrom false lexeme = 0 ∧ Line.PairedQuotes lexeme := by
    intro plain
    have unquoted : '"' ∉ lexeme := fun member => (plain '"' member).1 rfl
    rw [Line.PairedQuotes, List.count_eq_zero_of_not_mem unquoted]
    exact ⟨Line.depthFrom_false_of_plain plain, rfl⟩
  cases terminal with
  | ident =>
      obtain ⟨first, more, rfl, nameStart, nameChars⟩ := mem_oneOf_mul_kstar_iff.1 fits
      refine ofPlain (List.forall_mem_cons.2 ⟨?_, fun c member => ?_⟩)
      · exact
          ⟨ne_of_accepts nameStart (by decide), ne_of_accepts nameStart (by decide),
            ne_of_accepts nameStart (by decide)⟩
      · have nameChar := nameChars c member
        exact
          ⟨ne_of_accepts nameChar (by decide), ne_of_accepts nameChar (by decide),
            ne_of_accepts nameChar (by decide)⟩
  | number =>
      obtain ⟨first, more, rfl, digit, digits⟩ := mem_oneOf_mul_kstar_iff.1 fits
      have allDigits : ∀ c ∈ first :: more, c.isDigit = true :=
        List.forall_mem_cons.2 ⟨digit, digits⟩
      refine ofPlain fun c member => ?_
      have isDigit := allDigits c member
      exact
        ⟨ne_of_accepts isDigit (by decide), ne_of_accepts isDigit (by decide),
          ne_of_accepts isDigit (by decide)⟩
  | string =>
      obtain ⟨content, rfl, textChars⟩ := mem_pattern_string_iff.1 fits
      have unquoted : '"' ∉ content := fun member => absurd (textChars '"' member) (by decide)
      have none : content.count '"' = 0 := List.count_eq_zero_of_not_mem unquoted
      constructor
      · rw [Line.depthFrom_quote, Bool.not_false, Line.depthFrom_append, none,
          Line.depthFrom_true_of_unquoted unquoted]
        rfl
      · rw [Line.PairedQuotes, List.count_cons_self, List.count_append, none]
        rfl
  | relation =>
      have member := mem_pattern_relation_iff.1 fits
      simp only [relationSpellings, List.mem_cons, List.not_mem_nil, or_false] at member
      rcases member with rfl | rfl | rfl | rfl | rfl | rfl <;> decide
  | keyword word =>
      obtain rfl : lexeme = word.spelling := fits
      cases word <;> decide
  | mark sign =>
      obtain rfl : lexeme = sign.spelling := fits
      cases sign <;> decide
  | endOfInput => cases fits

/-! ## Braces of derivations -/

def Symbol.braceChange : Symbol → Int
  | .terminal read => read.braceChange
  | .nonterminal _ => 0

/-- What lexemes add to the depth. -/
def braceChanges (lexemes : List Lexeme) : Int :=
  (lexemes.map fun lexeme => lexeme.1.braceChange).sum

/-- Only blocks have braces, and they have both. -/
theorem Production.sum_braceChange (production : Production) :
    (production.rhs.map Symbol.braceChange).sum = 0 := by
  cases production <;> rfl

mutual

/-- The braces of every derived symbol are balanced. -/
theorem Derivation.braceChanges_lexemes {symbol : Symbol} (derivation : Derivation symbol) :
    braceChanges derivation.lexemes = symbol.braceChange := by
  match derivation with
  | .leaf terminal text => simp [braceChanges, Derivation.lexemes, Symbol.braceChange]
  | .node production parts =>
      rw [Derivation.lexemes, Derivations.braceChanges_lexemes parts, production.sum_braceChange,
        Symbol.braceChange]

theorem Derivations.braceChanges_lexemes {symbols : List Symbol}
    (derivations : Derivations symbols) :
    braceChanges derivations.lexemes = (symbols.map Symbol.braceChange).sum := by
  match derivations with
  | .nil => rfl
  | .cons first rest =>
      have ofFirst := Derivation.braceChanges_lexemes first
      have ofRest := Derivations.braceChanges_lexemes rest
      rw [braceChanges] at ofFirst ofRest
      rw [braceChanges, Derivations.lexemes, List.map_append, List.sum_append, ofFirst, ofRest,
        List.map_cons, List.sum_cons]

end

/-! ## Gaps between tokens -/

/-- The stretches of a text, from a place on, that lie before, between and behind tokens. -/
def gapsFrom : Nat → List Token → List Char → List (List Char)
  | _, [], text => [text]
  | place, token :: tokens, text =>
      text.take (token.start - place) ::
        gapsFrom token.stop tokens (text.drop (token.stop - place))

/-- What stands before, between and behind the tokens of a parsed text: spaces and comments. -/
def Parsed.gaps (source : String) (parsed : Parsed) : List (List Char) :=
  gapsFrom 0 parsed.tokens source.toList

theorem gapsFrom_cons
    {place : Nat} {token : Token} (tokens : List Token) {gap : List Char} (rest : List Char)
    (starts : token.start = place + gap.length) :
    gapsFrom place (token :: tokens) (gap ++ token.text.toList ++ rest) =
      gap :: gapsFrom token.stop tokens rest := by
  have before : token.start - place = gap.length := by omega
  have through : token.stop - place = (gap ++ token.text.toList).length := by
    rw [Token.stop, starts, List.length_append, String.length_toList]
    omega
  rw [gapsFrom, before, through, List.drop_left, List.append_assoc, List.take_left]

/-- The depth of a text that is cut into tokens is that of its gaps and of its tokens. The
induction follows the tokens; each piece in turn leaves no quote open. -/
theorem Laid.depthFrom_eq
    {place : Nat} {tokens : List Token} {text : List Char}
    (laid : Laid place tokens text)
    (paired : ∀ gap ∈ gapsFrom place tokens text, Line.PairedQuotes gap) :
    Line.depthFrom false text =
      ((gapsFrom place tokens text).map (Line.depthFrom false)).sum +
        braceChanges (tokens.map Token.lexeme) := by
  induction laid with
  | last _ => simp [gapsFrom, braceChanges]
  | @next place gap rest token tokens _ fits starts _ inductionHypothesis =>
      rw [gapsFrom_cons tokens rest starts] at paired ⊢
      obtain ⟨pairedGap, pairedRest⟩ := List.forall_mem_cons.1 paired
      have matched : token.text.toList ∈ token.terminal.pattern := fits
      obtain ⟨ofToken, pairedToken⟩ := Lexing.depthFrom_lexeme matched
      have ofRest := inductionHypothesis pairedRest
      have ofTokens :
          braceChanges ((token :: tokens).map Token.lexeme) =
            token.terminal.braceChange + braceChanges (tokens.map Token.lexeme) := by
        rw [braceChanges, List.map_cons, List.map_cons, List.sum_cons]
        rfl
      rw [List.append_assoc, Line.depthFrom_append_of_paired _ pairedGap,
        Line.depthFrom_append_of_paired _ pairedToken, ofToken, ofRest, ofTokens, List.map_cons,
        List.sum_cons]
      omega

/-! ## Whole programs -/

theorem Parsed.depth_eq_sum_gaps
    {source : String} {parsed : Parsed}
    (succeeded : Parsed.ofText source = .ok parsed)
    (paired : ∀ gap ∈ parsed.gaps source, Line.PairedQuotes gap) :
    Line.depth source = ((parsed.gaps source).map (Line.depthFrom false)).sum := by
  obtain ⟨laid, sameLexemes⟩ := Parsed.laid_of_ofText_eq_ok succeeded
  have counted := laid.depthFrom_eq paired
  have balanced := parsed.derivation.braceChanges_lexemes
  rw [sameLexemes] at balanced
  rw [Line.depth, counted, balanced, Symbol.braceChange, Int.add_zero, Parsed.gaps]

namespace Console

/-- If the quotes of every gap of a program come in pairs, its depth is positive exactly if that of
its gaps is: the comments open more braces than they close. Otherwise Enter submits the program. -/
theorem submits_program
    {source : String} {parsed : Parsed}
    (succeeded : Parsed.ofText source = .ok parsed)
    (paired : ∀ gap ∈ parsed.gaps source, Line.PairedQuotes gap) :
    (Line.depth source ≤ 0 ↔ ((parsed.gaps source).map (Line.depthFrom false)).sum ≤ 0) ∧
      (((parsed.gaps source).map (Line.depthFrom false)).sum ≤ 0 → submits source = true) := by
  have depth := Parsed.depth_eq_sum_gaps succeeded paired
  refine ⟨by rw [depth], fun shallow => ?_⟩
  rw [← depth] at shallow
  simp [submits, shallow]

/-- A program with braces and quotes in its comments and in a literal. -/
theorem submits_commented_program :
    ∃ (source : String) (parsed : Parsed),
      source = "if (x) \x7b // \x7d\x7b\n  print(\"\x7b\");\n\x7d // \"\x7b\"" ∧
        Parsed.ofText source = .ok parsed ∧
        (∀ gap ∈ parsed.gaps source, Line.PairedQuotes gap) ∧
        submits source = true := by
  have checked :
      let source := "if (x) \x7b // \x7d\x7b\n  print(\"\x7b\");\n\x7d // \"\x7b\""
      ((Parsed.ofText source).toOption.any fun parsed =>
        decide (∀ gap ∈ parsed.gaps source, Line.PairedQuotes gap) &&
          decide (((parsed.gaps source).map (Line.depthFrom false)).sum ≤ 0)) = true := by
    decide +kernel
  dsimp only at checked
  generalize "if (x) \x7b // \x7d\x7b\n  print(\"\x7b\");\n\x7d // \"\x7b\"" = source at checked ⊢
  cases succeeded : Parsed.ofText source with
  | error error =>
      rw [succeeded] at checked
      cases checked
  | ok parsed =>
      rw [succeeded] at checked
      obtain ⟨paired, shallow⟩ := Bool.and_eq_true_iff.1 checked
      have pairedQuotes := of_decide_eq_true paired
      have submitted := (submits_program succeeded pairedQuotes).2 (of_decide_eq_true shallow)
      exact ⟨source, parsed, rfl, succeeded, pairedQuotes, submitted⟩

/-- A finished program whose comment holds a brace is taken for unfinished. -/
theorem not_submits_commented_brace :
    (Parsed.ofText "1; // \x7b").isOk = true ∧
      ¬ Line.depth "1; // \x7b" ≤ 0 ∧ submits "1; // \x7b" = false := by
  decide +kernel

/-- Nor is a program submitted whose comments hold no brace but a quote without a partner: behind
it, what a literal holds is taken for code. -/
theorem not_submits_commented_quote :
    ((Parsed.ofText "1; // \"\nprint(\"\x7b\");").toOption.any fun parsed =>
        decide (((parsed.gaps "1; // \"\nprint(\"\x7b\");").map (Line.depthFrom false)).sum ≤ 0)) =
        true ∧
      ¬ Line.depth "1; // \"\nprint(\"\x7b\");" ≤ 0 ∧
      submits "1; // \"\nprint(\"\x7b\");" = false := by
  decide +kernel

end Console

end Scriptlet
