import Scriptlet.Proofs.Lexing.Spacing
import Scriptlet.Proofs.Parsing.Reading

/-!
# Whole words

Where a name may stand, the scanner reads a word as a whole, and a reserved word that is read there
ends with the word. Every reserved word but three is read in such states only. The `if` of an
`else if` is not, but a parenthesis has to follow it. The operators `in` and `not` stand behind an
operand, where no name is possible, and are read there whatever follows them.
-/

namespace Scriptlet

/-- Whether the word that a token ends in ends with the token: what stands behind it in the text
is no character of a name. -/
def Token.EndsWord (source : String) (token : Token) : Prop :=
  ∀ c, source.toList[token.stop]? = some c → Lexing.isNameChar c = false

/-! ## Words where names are allowed -/

namespace Lexing

theorem head_of_takeWhile_append_eq
    {accepts : Char → Bool} {front rest : List Char}
    (taken : (front ++ rest).takeWhile accepts = front) :
    ∀ c, rest.head? = some c → accepts c = false := by
  intro c first
  obtain ⟨more, rfl⟩ := List.head?_eq_some_iff.1 first
  have accepted : ∀ d ∈ front, accepts d = true := by
    intro d member
    rw [← taken] at member
    exact List.mem_takeWhile_imp member
  rw [List.takeWhile_append_of_pos accepted] at taken
  refine Bool.eq_false_iff.2 fun accepts => ?_
  rw [List.takeWhile_cons_of_pos accepts] at taken
  simp at taken

/-- Where names are allowed, a reserved word is read only if no name goes on behind it. -/
theorem not_isNameChar_of_scan_keyword
    {allowed : Terminal → Bool} {word : Keyword} {lexeme rest : List Char}
    (scanned : scan allowed (lexeme ++ rest) = some (.keyword word, lexeme))
    (names : allowed .ident = true) :
    ∀ c, rest.head? = some c → isNameChar c = false := by
  obtain rfl : lexeme = word.spelling := (scan_mem_pattern scanned).1
  obtain ⟨first, more, spelled, nameStart, _⟩ :=
    mem_oneOf_mul_kstar_iff.1 (Keyword.spelling_mem_pattern_ident word)
  obtain ⟨before, tried, after, order, silent, _, read, _⟩ := exists_before_of_scan scanned
  rw [spelled, List.cons_append] at read silent
  have isName : tried = .ident := by
    cases before with
    | nil => exact (List.cons.inj order).1.symm
    | cons earlier others =>
        -- A name is tried before all else, and a reserved word has the letters of one.
        obtain rfl : Terminal.ident = earlier := (List.cons.inj order).1
        have unread := silent .ident List.mem_cons_self names
        simp [lexeme?, nameStart] at unread
  subst isName
  simp only [lexeme?, nameStart, if_true, Option.some.injEq, List.cons.injEq, true_and] at read
  exact head_of_takeWhile_append_eq read

/-- No gap starts with a character of a name. -/
theorem afterGap_of_isNameChar
    {c : Char} (rest : List Char)
    (nameChar : isNameChar c = true) :
    afterGap (c :: rest) = c :: rest := by
  have solid : isSpace c = false := by
    refine Bool.eq_false_iff.2 fun space => ?_
    rw [isNameChar_eq_false_of_isSpace space] at nameChar
    cases nameChar
  have notSlash : c ≠ '/' := ne_of_accepts nameChar (by decide)
  simp [afterGap, gap, gapFrom, solid, notSlash]

end Lexing

/-! ## Checks of the whole table -/

namespace Automaton

private theorem names_beside_words :
    ∀ state < rows.length, ∀ word ∈ Keyword.all,
      word ∉ [Keyword.inWord, .notWord, .ifWord] → allows state (.keyword word) = true →
        allows state .ident = true := by
  decide +kernel

/-- A state that allows a reserved word other than `in`, `not` and `if` allows names as well. -/
theorem allows_ident_of_allows_keyword
    {state : State} {word : Keyword}
    (plain : word ∉ [Keyword.inWord, .notWord, .ifWord])
    (granted : allows state (.keyword word) = true) :
    allows state .ident = true := by
  have inside : state < rows.length := by
    apply lt_length_of_row_ne
    intro empty
    rw [allows, action?, empty] at granted
    cases granted
  exact names_beside_words state inside word (Keyword.mem_all word) plain granted

private theorem parenthesis_behind_if :
    ∀ state < rows.length,
      ∀ target ∈ next? state (.terminal (.keyword .ifWord)), ∀ terminal ∈ Terminal.all,
        allows target terminal = true → terminal = .mark .leftParen := by
  decide +kernel

/-- A state that is entered by an `if` allows nothing but a parenthesis. -/
theorem eq_leftParen_of_allows
    {state target : State} {terminal : Terminal}
    (entered : next? state (.terminal (.keyword .ifWord)) = some target)
    (granted : allows target terminal = true) :
    terminal = .mark .leftParen := by
  have inside : state < rows.length := by
    apply lt_length_of_row_ne
    intro empty
    rw [next?, empty] at entered
    cases entered
  exact parenthesis_behind_if state inside target entered terminal terminal.mem_all granted

end Automaton

/-! ## Along the tokens of a text -/

/-- Behind an `if` no name goes on: the next token is a parenthesis. -/
theorem Cut.not_isNameChar_of_if
    {state : Automaton.State} {states : List Automaton.State} {place : Nat}
    {tokens : List Token} {text : List Char} {below : Automaton.State}
    (cut : Cut (state :: states) place tokens text)
    (entered : Automaton.next? below (.terminal (.keyword .ifWord)) = some state) :
    ∀ c, text.head? = some c → Lexing.isNameChar c = false := by
  intro c first
  obtain ⟨more, rfl⟩ := List.head?_eq_some_iff.1 first
  refine Bool.eq_false_iff.2 fun nameChar => ?_
  have noGap := Lexing.afterGap_of_isNameChar more nameChar
  cases cut with
  | last atEnd =>
      rw [noGap] at atEnd
      cases atEnd
  | @next _ _ _ token _ _ scanned _ _ =>
      rw [noGap] at scanned
      obtain ⟨fits, granted⟩ := Lexing.scan_mem_pattern scanned
      have isParen := Automaton.eq_leftParen_of_allows entered granted
      rw [isParen] at fits
      have spelled : token.text.toList = ['('] := fits
      obtain ⟨rest, begins⟩ := (Lexing.scan_prefix_of_eq_some scanned).2
      rw [spelled] at begins
      obtain rfl : '(' = c := (List.cons.inj begins).1
      exact absurd nameChar (by decide)

/-- Every reserved word but `in` and `not` ends a word of the text. The induction follows the
tokens; `before` is what stands before the text that is still to be read. -/
theorem Cut.endsWord
    {states : List Automaton.State} {place : Nat} {tokens : List Token} {text : List Char}
    {source : String} {before : List Char} {token : Token} {word : Keyword}
    (cut : Cut states place tokens text)
    (entered : Stack.Entered (tokens.map Token.lexeme) states.tail)
    (split : source.toList = before ++ text)
    (starts : before.length = place)
    (member : token ∈ tokens)
    (reserved : token.terminal = .keyword word)
    (notIn : word ≠ .inWord)
    (notNot : word ≠ .notWord) :
    token.EndsWord source := by
  induction cut generalizing before with
  | last _ => cases member
  | @next state states place first tokens text scanned begins rest inductionHypothesis =>
      obtain ⟨_, after, remaining⟩ := Lexing.scan_prefix_of_eq_some scanned
      have splitAfter :
          source.toList = (before ++ Lexing.gap text ++ first.text.toList) ++ after := by
        rw [split, List.append_assoc, List.append_assoc, remaining, Lexing.gap_append_afterGap]
      have stops : (before ++ Lexing.gap text ++ first.text.toList).length = first.stop := by
        rw [Token.stop, begins, List.length_append, List.length_append, starts,
          String.length_toList]
      rw [← remaining, List.drop_left] at rest inductionHypothesis
      cases entered with
      | @cons _ target _ states enters enteredRest =>
          rcases List.mem_cons.1 member with rfl | later
          · intro c found
            rw [splitAfter, ← stops, List.getElem?_append_right (Nat.le_refl _), Nat.sub_self,
              ← List.head?_eq_getElem?] at found
            obtain ⟨below, enters⟩ := enters
            by_cases isIf : word = .ifWord
            · have enteredByIf :
                  Automaton.next? below (.terminal (.keyword .ifWord)) = some target := by
                rw [← isIf, ← reserved]
                exact enters
              exact rest.not_isNameChar_of_if enteredByIf c found
            · have plain : word ∉ [Keyword.inWord, .notWord, .ifWord] := by
                simp [notIn, notNot, isIf]
              rw [← remaining, reserved] at scanned
              have granted := (Lexing.scan_mem_pattern scanned).2
              have names := Automaton.allows_ident_of_allows_keyword plain granted
              exact Lexing.not_isNameChar_of_scan_keyword scanned names c found
          · exact inductionHypothesis enteredRest splitAfter stops later

namespace Parsed

/-- In a parsed text every reserved word but `in` and `not` is a whole word: no character of a name
stands behind it. -/
theorem endsWord_of_reserved
    {source : String} {parsed : Parsed} {token : Token} {word : Keyword}
    (succeeded : Parsed.ofText source = .ok parsed)
    (member : token ∈ parsed.tokens)
    (reserved : token.terminal = .keyword word)
    (notIn : word ≠ .inWord)
    (notNot : word ≠ .notWord) :
    token.EndsWord source := by
  have cut := Parsed.cut_of_ofText_eq_ok succeeded
  have linked : Stack.Linked [] := trivial
  have entered := Stack.entered_of_journey linked (Stack.journey_program parsed.derivation)
  rw [(Parsed.laid_of_ofText_eq_ok succeeded).2] at entered
  exact cut.endsWord entered (List.nil_append _).symm rfl member reserved notIn notNot

/-- The `if` behind an `else`, which is read where no name may stand. -/
theorem endsWord_of_chained_if :
    ∃ parsed,
      Parsed.ofText "if(x)\x7b\x7delse if(iffy)\x7bprinter=1;\x7d" = .ok parsed ∧
        ⟨.keyword .ifWord, "if", 12⟩ ∈ parsed.tokens ∧
        Token.EndsWord "if(x)\x7b\x7delse if(iffy)\x7bprinter=1;\x7d"
          ⟨.keyword .ifWord, "if", 12⟩ := by
  have listed :
      (Parsed.ofText "if(x)\x7b\x7delse if(iffy)\x7bprinter=1;\x7d").toOption.any
        (·.tokens.contains ⟨.keyword .ifWord, "if", 12⟩) = true := by
    decide +kernel
  cases succeeded : Parsed.ofText "if(x)\x7b\x7delse if(iffy)\x7bprinter=1;\x7d" with
  | error error =>
      rw [succeeded] at listed
      cases listed
  | ok parsed =>
      rw [succeeded] at listed
      have member : ⟨.keyword .ifWord, "if", 12⟩ ∈ parsed.tokens := List.contains_iff_mem.1 listed
      have ends := endsWord_of_reserved succeeded member rfl (by decide) (by decide)
      exact ⟨parsed, rfl, member, ends⟩

/-- The operator `in` is read off the front of a longer word. -/
theorem not_endsWord_of_membership :
    ∃ parsed,
      Parsed.ofText "1inx;" = .ok parsed ∧
        ⟨.keyword .inWord, "in", 1⟩ ∈ parsed.tokens ∧
        ¬ Token.EndsWord "1inx;" ⟨.keyword .inWord, "in", 1⟩ := by
  have listed :
      (Parsed.ofText "1inx;").toOption.any
        (·.tokens.contains ⟨.keyword .inWord, "in", 1⟩) = true := by
    decide +kernel
  cases succeeded : Parsed.ofText "1inx;" with
  | error error =>
      rw [succeeded] at listed
      cases listed
  | ok parsed =>
      rw [succeeded] at listed
      have member : ⟨.keyword .inWord, "in", 1⟩ ∈ parsed.tokens := List.contains_iff_mem.1 listed
      refine ⟨parsed, rfl, member, fun ends => ?_⟩
      exact absurd (ends 'x' (by decide)) (by decide)

end Parsed

end Scriptlet
