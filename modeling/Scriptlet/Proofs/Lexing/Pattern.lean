import Mathlib.Computability.Language
import Mathlib.Data.List.TakeWhile
import Scriptlet.Grammar.Derivation
import Scriptlet.Parsing.Token

/-!
# Patterns of the terminals

Every terminal has a pattern, given here as a formal language, and so have the spaces and the
comments that may stand between tokens. The main statements say that reading is sound for these
patterns: a lexeme that is read is a full match of the pattern of the terminal it is passed on
under, and a gap that is skipped is a sequence of spaces and comments.
-/

namespace Scriptlet

open Computability

namespace Lexing

/-! ## Patterns -/

/-- The texts of one character of a class. -/
def oneOf (accepts : Char → Bool) : Language Char :=
  {text | ∃ c, accepts c = true ∧ text = [c]}

def whitespace : Language Char :=
  oneOf isSpace * (oneOf isSpace)∗

/-- A comment: two slashes and the rest of the line. -/
def comment : Language Char :=
  {['/', '/']} * (oneOf (· != '\n'))∗

/-- What may stand between two tokens: spaces and comments in any number and order. -/
def gaps : Language Char :=
  (whitespace + comment)∗

end Lexing

open Lexing in
/-- The lexemes of a terminal. The end of the input has none. -/
def Terminal.pattern : Terminal → Language Char
  | .ident => oneOf isNameStart * (oneOf isNameChar)∗
  | .number => oneOf Char.isDigit * (oneOf Char.isDigit)∗
  | .string => {['"']} * (oneOf isTextChar)∗ * {['"']}
  | .relation => {['<', '=']} + {['>', '=']} + {['=', '=']} + {['!', '=']} + {['<']} + {['>']}
  | .keyword word => {word.spelling}
  | .mark sign => {sign.spelling}
  | .endOfInput => 0

/-- A lexeme whose text is a full match of its terminal. -/
def Lexeme.Fits (lexeme : Lexeme) : Prop :=
  lexeme.2.toList ∈ lexeme.1.pattern

def Token.lexeme (token : Token) : Lexeme :=
  (token.terminal, token.text)

theorem Keyword.mem_all (word : Keyword) : word ∈ Keyword.all := by
  cases word <;> decide

theorem Terminal.mem_all (terminal : Terminal) : terminal ∈ Terminal.all := by
  cases terminal with
  | keyword word => cases word <;> decide
  | mark sign => cases sign <;> decide
  | _ => decide

namespace Lexing

/-! ## Membership in the patterns -/

/-- Two characters differ if a class has one of them and not the other. -/
theorem ne_of_accepts
    {accepts : Char → Bool} {c d : Char}
    (accepted : accepts c = true)
    (refused : accepts d = false) :
    c ≠ d := by
  rintro rfl
  rw [refused] at accepted
  cases accepted

theorem mem_kstar_oneOf_iff
    {accepts : Char → Bool} {text : List Char} :
    text ∈ (oneOf accepts)∗ ↔ ∀ c ∈ text, accepts c = true := by
  constructor
  · rintro ⟨pieces, rfl, members⟩ c present
    obtain ⟨piece, member, present⟩ := List.mem_flatten.1 present
    obtain ⟨d, accepted, rfl⟩ := members piece member
    rw [List.mem_singleton.1 present]
    exact accepted
  · intro accepted
    refine ⟨text.map fun c => [c], (by simp [← List.flatMap_def]), ?_⟩
    intro piece member
    obtain ⟨c, present, rfl⟩ := List.mem_map.1 member
    exact ⟨c, accepted c present, rfl⟩

theorem mem_oneOf_mul_kstar_iff
    {first further : Char → Bool} {text : List Char} :
    text ∈ oneOf first * (oneOf further)∗ ↔
      ∃ c rest, text = c :: rest ∧ first c = true ∧ ∀ d ∈ rest, further d = true := by
  constructor
  · rintro ⟨_, ⟨c, accepted, rfl⟩, rest, members, rfl⟩
    exact ⟨c, rest, rfl, accepted, mem_kstar_oneOf_iff.1 members⟩
  · rintro ⟨c, rest, rfl, accepted, members⟩
    exact ⟨[c], ⟨c, accepted, rfl⟩, rest, mem_kstar_oneOf_iff.2 members, rfl⟩

theorem mem_comment_iff {text : List Char} :
    text ∈ comment ↔ ∃ line, text = '/' :: '/' :: line ∧ '\n' ∉ line := by
  constructor
  · rintro ⟨_, rfl, line, members, rfl⟩
    refine ⟨line, rfl, fun present => ?_⟩
    simpa using mem_kstar_oneOf_iff.1 members '\n' present
  · rintro ⟨line, rfl, absent⟩
    refine ⟨['/', '/'], rfl, line, mem_kstar_oneOf_iff.2 ?_, rfl⟩
    intro c present
    simpa using fun same : c = '\n' => absent (same ▸ present)

theorem mem_pattern_string_iff {text : List Char} :
    text ∈ Terminal.string.pattern ↔
      ∃ content, text = '"' :: (content ++ ['"']) ∧ ∀ c ∈ content, isTextChar c = true := by
  constructor
  · rintro ⟨_, ⟨_, rfl, content, members, rfl⟩, _, rfl, rfl⟩
    exact ⟨content, rfl, mem_kstar_oneOf_iff.1 members⟩
  · rintro ⟨content, rfl, members⟩
    exact
      ⟨'"' :: content, ⟨['"'], rfl, content, mem_kstar_oneOf_iff.2 members, rfl⟩, ['"'], rfl,
        rfl⟩

/-- A number is a nonempty run of ASCII digits. -/
theorem digits_of_mem_pattern_number
    {text : List Char}
    (matched : text ∈ Terminal.number.pattern) :
    text ≠ [] ∧ ∀ c ∈ text, c.isDigit = true := by
  obtain ⟨first, rest, rfl, firstDigit, restDigits⟩ := mem_oneOf_mul_kstar_iff.1 matched
  exact ⟨List.cons_ne_nil first rest, List.forall_mem_cons.2 ⟨firstDigit, restDigits⟩⟩

theorem mem_pattern_relation_iff {text : List Char} :
    text ∈ Terminal.relation.pattern ↔ text ∈ relationSpellings := by
  have unfolded :
      text ∈ Terminal.relation.pattern ↔
        ((((text = ['<', '='] ∨ text = ['>', '=']) ∨ text = ['=', '=']) ∨ text = ['!', '=']) ∨
          text = ['<']) ∨ text = ['>'] :=
    Iff.rfl
  rw [unfolded]
  simp only [relationSpellings, List.mem_cons, List.not_mem_nil, or_false, or_assoc]

theorem append_mem_gaps
    {first rest : List Char}
    (firstMember : first ∈ whitespace + comment)
    (restMember : rest ∈ gaps) :
    first ++ rest ∈ gaps := by
  obtain ⟨pieces, rfl, members⟩ := restMember
  refine ⟨first :: pieces, rfl, ?_⟩
  intro piece member
  rcases List.mem_cons.1 member with rfl | later
  · exact firstMember
  · exact members piece later

/-! ## Gaps are sequences of spaces and comments -/

/-- A comment lasts to the end of its line, and after it the gap goes on. -/
theorem gapFrom_true (text : List Char) :
    gapFrom true text =
      text.takeWhile (· != '\n') ++ gapFrom false (text.dropWhile (· != '\n')) := by
  induction text with
  | nil => rfl
  | cons c rest inductionHypothesis =>
      by_cases lineFeed : c = '\n'
      · subst lineFeed
        simp [gapFrom, isSpace]
      · have continues : (c != '\n') = true := by simpa using lineFeed
        simp only [gapFrom, continues, List.takeWhile_cons_of_pos, List.dropWhile_cons_of_pos,
          inductionHypothesis, List.cons_append]

theorem gapFrom_prefix (inComment : Bool) (text : List Char) :
    gapFrom inComment text <+: text := by
  induction text generalizing inComment with
  | nil => cases inComment <;> exact List.prefix_rfl
  | cons c rest inductionHypothesis =>
      cases inComment with
      | true => exact List.cons_prefix_cons.2 ⟨rfl, inductionHypothesis _⟩
      | false =>
          unfold gapFrom
          split
          · exact List.cons_prefix_cons.2 ⟨rfl, inductionHypothesis _⟩
          · split
            · exact List.cons_prefix_cons.2 ⟨rfl, inductionHypothesis _⟩
            · exact List.nil_prefix

theorem gap_append_afterGap (text : List Char) :
    gap text ++ afterGap text = text := by
  obtain ⟨rest, split⟩ := gapFrom_prefix false text
  have dropped : afterGap text = rest := by
    unfold afterGap gap
    nth_rewrite 2 [← split]
    exact List.drop_left
  rw [dropped]
  exact split

theorem gap_mem_gaps (text : List Char) : gap text ∈ gaps := by
  unfold gap
  induction size : text.length using Nat.strong_induction_on generalizing text with
  | _ bound inductionHypothesis =>
      subst size
      cases text with
      | nil => exact Language.nil_mem_kstar _
      | cons c rest =>
          unfold gapFrom
          split
          · next space =>
              have single : [c] ∈ whitespace :=
                mem_oneOf_mul_kstar_iff.2 ⟨c, [], rfl, space, by simp⟩
              exact append_mem_gaps (.inl single) (inductionHypothesis _ (by simp) rest rfl)
          · split
            · next slashes =>
                obtain ⟨rfl, line, rfl⟩ : c = '/' ∧ ∃ line, rest = '/' :: line := by
                  cases rest with
                  | nil => simp at slashes
                  | cons d line => simpa using slashes
                have opening : '/' :: '/' :: line.takeWhile (· != '\n') ∈ comment := by
                  refine mem_comment_iff.2 ⟨_, rfl, fun present => ?_⟩
                  simpa using List.mem_takeWhile_imp present
                have shorter : (line.dropWhile (· != '\n')).length ≤ line.length :=
                  (List.dropWhile_suffix _).length_le
                have closing :=
                  inductionHypothesis (line.dropWhile (· != '\n')).length
                    (by simp only [List.length_cons]; omega) _ rfl
                rw [gapFrom_true]
                simpa using append_mem_gaps (.inr opening) closing
            · exact Language.nil_mem_kstar _

/-! ## Lexemes are full matches -/

theorem lexeme?_mem_pattern
    {terminal : Terminal} {text lexeme : List Char}
    (found : lexeme? terminal text = some lexeme) :
    lexeme ∈ terminal.pattern := by
  unfold lexeme? at found
  split at found
  · split at found
    · next c rest nameStart =>
        cases found
        exact
          mem_oneOf_mul_kstar_iff.2
            ⟨c, _, rfl, nameStart, fun d present => List.mem_takeWhile_imp present⟩
    · cases found
  · split at found
    · next c rest digit =>
        cases found
        exact
          mem_oneOf_mul_kstar_iff.2
            ⟨c, _, rfl, digit, fun d present => List.mem_takeWhile_imp present⟩
    · cases found
  · split at found
    · cases found
      exact
        mem_pattern_string_iff.2 ⟨_, rfl, fun c present => List.mem_takeWhile_imp present⟩
    · cases found
  · obtain ⟨spelling, member, found⟩ := List.exists_of_findSome?_eq_some found
    obtain ⟨rfl, _⟩ := exactly?_eq_some found
    exact mem_pattern_relation_iff.2 member
  · exact (exactly?_eq_some found).1
  · exact (exactly?_eq_some found).1
  · cases found

/-- A word is passed on as an allowed reserved word of the same spelling, and as a name only if
there is none. -/
theorem wordTerminal_cases
    (allowed : Terminal → Bool) (word : List Char) :
    (wordTerminal allowed word = .ident ∧
        ∀ reserved : Keyword, allowed (.keyword reserved) = true → word ≠ reserved.spelling) ∨
      ∃ reserved : Keyword,
        wordTerminal allowed word = .keyword reserved ∧ allowed (.keyword reserved) = true ∧
          word = reserved.spelling := by
  unfold wordTerminal
  dsimp only
  split
  · next reserved found =>
      have matched := List.find?_some found
      simp only [Bool.and_eq_true, beq_iff_eq] at matched
      exact .inr ⟨reserved, rfl, matched.1, matched.2.symm⟩
  · next missing =>
      refine .inl ⟨rfl, fun reserved granted spelled => ?_⟩
      have unmatched := List.find?_eq_none.1 missing reserved (Keyword.mem_all reserved)
      simp [granted, spelled] at unmatched

/-- A lexeme that is read is a full match of its terminal, which is among the allowed ones. -/
theorem scan_mem_pattern
    {allowed : Terminal → Bool} {text lexeme : List Char} {terminal : Terminal}
    (found : scan allowed text = some (terminal, lexeme)) :
    lexeme ∈ terminal.pattern ∧ allowed terminal = true := by
  obtain ⟨tried, _, found⟩ := List.exists_of_findSome?_eq_some found
  split at found
  · next triedAllowed =>
      obtain ⟨_, read, same⟩ := Option.map_eq_some_iff.1 found
      cases same
      have matched := lexeme?_mem_pattern read
      unfold classify
      split
      · rcases wordTerminal_cases allowed lexeme with ⟨name, _⟩ | ⟨reserved, word, granted, spelled⟩
        · rw [name]
          exact ⟨matched, triedAllowed⟩
        · rw [word]
          exact ⟨spelled, granted⟩
      · exact ⟨matched, triedAllowed⟩
  · cases found

end Lexing

end Scriptlet
