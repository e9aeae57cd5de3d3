import Scriptlet.Grammar.Terminal

/-!
# Tokens

Tokens and the cutting of source text into them. What can be read at a place depends on the
terminals that are allowed there: when names are allowed a word is read as a whole and is reserved
only if that very reserved word is allowed too; when they are not, a reserved word is read even if
letters follow it.
-/

namespace Scriptlet

/-- A lexeme in its place: the terminal it was read as, its text, and where it starts. -/
structure Token where
  terminal : Terminal
  text : String
  start : Nat
  deriving DecidableEq, Repr

namespace Token

def stop (token : Token) : Nat :=
  token.start + token.text.length

end Token

namespace Lexing

/-! ## Gaps between tokens -/

/-- The characters that may stand between tokens. -/
def isSpace (c : Char) : Bool :=
  c == ' ' || c == '\t' || c == '\x0c' || c == '\r' || c == '\n'

/-- The spaces and comments at the start of a text; `inComment` says whether the text starts
inside a comment, which lasts to the end of its line. -/
def gapFrom : (inComment : Bool) → List Char → List Char
  | _, [] => []
  | true, c :: rest => c :: gapFrom (c != '\n') rest
  | false, c :: rest =>
      if isSpace c then c :: gapFrom false rest
      else if c == '/' && rest.head? == some '/' then c :: gapFrom true rest
      else []

/-- The spaces and comments at the start of a text. -/
def gap (text : List Char) : List Char :=
  gapFrom false text

/-- A text from its first token on. -/
def afterGap (text : List Char) : List Char :=
  text.drop (gap text).length

/-! ## Lexemes of a terminal -/

/-- The first character of a name: an ASCII letter or an underscore. -/
def isNameStart (c : Char) : Bool :=
  c.isAlpha || c == '_'

/-- A further character of a name: an ASCII letter, a digit or an underscore. -/
def isNameChar (c : Char) : Bool :=
  c.isAlphanum || c == '_'

def isTextChar (c : Char) : Bool :=
  c != '"' && c != '\n'

/-- The spellings of the relations, a longer one before its own beginning. -/
def relationSpellings : List (List Char) :=
  [['<', '='], ['>', '='], ['=', '='], ['!', '='], ['<'], ['>']]

def exactly? (spelling text : List Char) : Option (List Char) :=
  if spelling.isPrefixOf text then some spelling else none

/-- The lexeme of a terminal at the start of a text, as long as it can be. -/
def lexeme? : Terminal → List Char → Option (List Char)
  | .ident, c :: rest =>
      if isNameStart c then some (c :: rest.takeWhile isNameChar) else none
  | .number, c :: rest =>
      if c.isDigit then some (c :: rest.takeWhile Char.isDigit) else none
  | .string, '"' :: rest =>
      match rest.dropWhile isTextChar with
      | '"' :: _ => some ('"' :: (rest.takeWhile isTextChar ++ ['"']))
      | _ => none
  | .relation, text => relationSpellings.findSome? (exactly? · text)
  | .keyword word, text => exactly? word.spelling text
  | .mark sign, text => exactly? sign.spelling text
  | _, _ => none

/-! ## Choosing a terminal -/

/-- The terminal of a whole word: a reserved word if it is allowed, else a name. -/
def wordTerminal (allowed : Terminal → Bool) (word : List Char) : Terminal :=
  let matches? := fun reserved : Keyword =>
    allowed (.keyword reserved) && reserved.spelling == word
  match Keyword.all.find? matches? with
  | some reserved => .keyword reserved
  | none => .ident

/-- The terminal under which a lexeme is passed on. -/
def classify (allowed : Terminal → Bool) (terminal : Terminal) (lexeme : List Char) : Terminal :=
  match terminal with
  | .ident => wordTerminal allowed lexeme
  | other => other

/-- The lexeme at the start of a text and its terminal, among the allowed terminals. -/
def scan (allowed : Terminal → Bool) (text : List Char) : Option (Terminal × List Char) :=
  Terminal.all.findSome? fun terminal =>
    if allowed terminal then
      (lexeme? terminal text).map fun lexeme => (classify allowed terminal lexeme, lexeme)
    else
      none

/-! ## A lexeme is a nonempty beginning of the text -/

theorem exactly?_eq_some
    {spelling text lexeme : List Char}
    (found : exactly? spelling text = some lexeme) :
    lexeme = spelling ∧ spelling <+: text := by
  unfold exactly? at found
  split at found
  · next starts =>
      exact ⟨(Option.some.inj found).symm, List.isPrefixOf_iff_prefix.1 starts⟩
  · exact absurd found (by simp)

theorem lexeme?_prefix_of_eq_some
    {terminal : Terminal} {text lexeme : List Char}
    (found : lexeme? terminal text = some lexeme) :
    lexeme ≠ [] ∧ lexeme <+: text := by
  unfold lexeme? at found
  split at found
  · next c rest =>
      split at found
      · cases found
        exact ⟨by simp, List.cons_prefix_cons.2 ⟨rfl, List.takeWhile_prefix _⟩⟩
      · cases found
  · next c rest =>
      split at found
      · cases found
        exact ⟨by simp, List.cons_prefix_cons.2 ⟨rfl, List.takeWhile_prefix _⟩⟩
      · cases found
  · next rest =>
      split at found
      · next after dropped =>
          cases found
          refine ⟨by simp, List.cons_prefix_cons.2 ⟨rfl, after, ?_⟩⟩
          rw [List.append_assoc, List.singleton_append, ← dropped, List.takeWhile_append_dropWhile]
      · cases found
  · obtain ⟨spelling, member, found⟩ := List.exists_of_findSome?_eq_some found
    obtain ⟨rfl, starts⟩ := exactly?_eq_some found
    refine ⟨?_, starts⟩
    rintro rfl
    simp [relationSpellings] at member
  · next word =>
      obtain ⟨rfl, starts⟩ := exactly?_eq_some found
      exact ⟨word.spelling_ne_nil, starts⟩
  · next sign =>
      obtain ⟨rfl, starts⟩ := exactly?_eq_some found
      exact ⟨sign.spelling_ne_nil, starts⟩
  · cases found

theorem scan_prefix_of_eq_some
    {allowed : Terminal → Bool} {text lexeme : List Char} {terminal : Terminal}
    (found : scan allowed text = some (terminal, lexeme)) :
    lexeme ≠ [] ∧ lexeme <+: text := by
  obtain ⟨tried, _, found⟩ := List.exists_of_findSome?_eq_some found
  split at found
  · obtain ⟨_, read, same⟩ := Option.map_eq_some_iff.1 found
    cases same
    exact lexeme?_prefix_of_eq_some read
  · cases found

theorem length_drop_lexeme_lt
    {allowed : Terminal → Bool} {text rest lexeme : List Char} {first : Char}
    {terminal : Terminal}
    (skipped : afterGap text = first :: rest)
    (found : scan allowed (first :: rest) = some (terminal, lexeme)) :
    ((first :: rest).drop lexeme.length).length < text.length := by
  have nonempty : 0 < lexeme.length :=
    List.length_pos_iff.2 (scan_prefix_of_eq_some found).1
  have bound : (afterGap text).length ≤ text.length := by simp [afterGap]
  rw [skipped] at bound
  simp only [List.length_drop, List.length_cons] at bound ⊢
  omega

end Lexing

end Scriptlet
