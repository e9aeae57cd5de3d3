import Scriptlet.Proofs.Lexing.Pattern

/-!
# Lexemes followed by a space

A full match of an allowed terminal is read back as that very lexeme when the text after it starts
with a space or ends. Only two things have to be excluded: that a longer lexeme is read, which the
space prevents, and that another allowed terminal comes first, which the order of the terminals
prevents. A name must not be spelled like a reserved word.
-/

namespace Scriptlet

namespace Lexing

/-- A text that is empty or starts with a space. -/
def Parted (text : List Char) : Prop :=
  ∀ c, text.head? = some c → isSpace c = true

theorem isSpace_eq_true_iff {c : Char} :
    isSpace c = true ↔ c = ' ' ∨ c = '\t' ∨ c = '\x0c' ∨ c = '\r' ∨ c = '\n' := by
  simp [isSpace, or_assoc]

/-! ## Characters of the classes -/

theorem isNameChar_eq_false_of_isSpace {c : Char} (space : isSpace c = true) :
    isNameChar c = false := by
  rcases isSpace_eq_true_iff.1 space with rfl | rfl | rfl | rfl | rfl <;> decide

theorem isDigit_eq_false_of_isSpace {c : Char} (space : isSpace c = true) :
    c.isDigit = false := by
  rcases isSpace_eq_true_iff.1 space with rfl | rfl | rfl | rfl | rfl <;> decide

theorem isNameStart_eq_false_of_isDigit {c : Char} (digit : c.isDigit = true) :
    isNameStart c = false := by
  have notLetter : c.isAlpha = false := by
    have upper : c.toNat ≤ 57 := (Char.isDigit_iff_toNat.1 digit).2
    refine Bool.eq_false_iff.2 fun letter => ?_
    rcases Bool.or_eq_true_iff.1 letter with isUpper | isLower
    · have lower : 'A'.val ≤ c.val := (of_decide_eq_true isUpper).1
      have beyond : 65 ≤ c.toNat := UInt32.le_iff_toNat_le.1 lower
      omega
    · have lower : 'a'.val ≤ c.val := of_decide_eq_true (Bool.and_eq_true_iff.1 isLower).1
      have beyond : 97 ≤ c.toNat := UInt32.le_iff_toNat_le.1 lower
      omega
  have notUnderscore : c ≠ '_' := by
    rintro rfl
    exact absurd digit (by decide)
  simp [isNameStart, notLetter, notUnderscore]

/-! ## Lexemes end before a space -/

theorem takeWhile_append_of_parted
    {accepts : Char → Bool} {lexeme rest : List Char}
    (excludes : ∀ c, isSpace c = true → accepts c = false)
    (members : ∀ c ∈ lexeme, accepts c = true)
    (parted : Parted rest) :
    (lexeme ++ rest).takeWhile accepts = lexeme := by
  rw [List.takeWhile_append_of_pos members]
  cases rest with
  | nil => simp
  | cons c rest =>
      have stops := excludes c (parted c rfl)
      simp [stops]

/-- A spelling without spaces at the start of a text already stands before the first space. -/
theorem prefix_of_prefix_append
    {spelling lexeme rest : List Char}
    (solid : ∀ c ∈ spelling, isSpace c = false)
    (parted : Parted rest)
    (starts : spelling <+: lexeme ++ rest) :
    spelling <+: lexeme := by
  rcases List.prefix_or_prefix_of_prefix starts (List.prefix_append lexeme rest) with
    within | ⟨extra, rfl⟩
  · exact within
  · cases extra with
    | nil => simp
    | cons c extra =>
        have begins : c :: extra <+: rest := (List.prefix_append_right_inj lexeme).1 starts
        have space : isSpace c = true := by
          obtain ⟨more, rfl⟩ := begins
          exact parted c rfl
        have noSpace := solid c (by simp)
        rw [space] at noSpace
        cases noSpace

theorem exactly?_append_eq_none
    {spelling lexeme rest : List Char}
    (solid : ∀ c ∈ spelling, isSpace c = false)
    (parted : Parted rest)
    (differs : ¬ spelling <+: lexeme) :
    exactly? spelling (lexeme ++ rest) = none := by
  unfold exactly?
  split
  · next starts =>
      have within :=
        prefix_of_prefix_append solid parted (List.isPrefixOf_iff_prefix.1 starts)
      exact absurd within differs
  · rfl

theorem exactly?_append_self (spelling rest : List Char) :
    exactly? spelling (spelling ++ rest) = some spelling := by
  have starts : spelling.isPrefixOf (spelling ++ rest) = true :=
    List.isPrefixOf_iff_prefix.2 (List.prefix_append spelling rest)
  simp [exactly?, starts]

/-! ## Fixed spellings -/

theorem keyword_solid (word : Keyword) : ∀ c ∈ word.spelling, isSpace c = false := by
  have solid : (word.spelling.all fun c => !isSpace c) = true := by
    cases word <;> decide
  simpa using solid

theorem mark_solid (sign : Mark) : ∀ c ∈ sign.spelling, isSpace c = false := by
  have solid : (sign.spelling.all fun c => !isSpace c) = true := by
    cases sign <;> decide
  simpa using solid

theorem relation_solid :
    ∀ spelling ∈ relationSpellings, ∀ c ∈ spelling, isSpace c = false := by
  have solid :
      (relationSpellings.all fun spelling => spelling.all fun c => !isSpace c) = true := by
    decide
  simpa using solid

/-- No reserved word that is tried earlier is the beginning of a given one. -/
theorem keyword_before (word : Keyword) :
    ∃ before after,
      Keyword.all = before ++ word :: after ∧
        ∀ other ∈ before, ¬ other.spelling <+: word.spelling := by
  refine
    ⟨Keyword.all.takeWhile (· != word), (Keyword.all.dropWhile (· != word)).tail, ?_, ?_⟩ <;>
    cases word <;> decide

/-- No mark that is tried earlier is the beginning of a given one. -/
theorem mark_before (sign : Mark) :
    ∃ before after,
      Mark.all = before ++ sign :: after ∧
        ∀ other ∈ before, ¬ other.spelling <+: sign.spelling := by
  refine
    ⟨Mark.all.takeWhile (· != sign), (Mark.all.dropWhile (· != sign)).tail, ?_, ?_⟩ <;>
    cases sign <;> decide

theorem keyword_not_prefix_mark (word : Keyword) (sign : Mark) :
    ¬ word.spelling <+: sign.spelling := by
  have differs : ∀ other ∈ Keyword.all, ¬ other.spelling <+: sign.spelling := by
    cases sign <;> decide
  exact differs word (Keyword.mem_all word)

/-- No relation is tried earlier that is the beginning of a given one. -/
theorem relation_before
    {spelling : List Char}
    (member : spelling ∈ relationSpellings) :
    ∃ before after,
      relationSpellings = before ++ spelling :: after ∧
        ∀ other ∈ before, ¬ other <+: spelling := by
  refine
    ⟨relationSpellings.takeWhile (· != spelling),
      (relationSpellings.dropWhile (· != spelling)).tail, ?_, ?_⟩ <;>
    revert spelling <;> decide

/-- Of several spellings the one that stands before a space is found, if none that is tried
earlier is its beginning. -/
theorem findSome?_exactly?_append
    {before after : List (List Char)} {spelling rest : List Char}
    (solid : ∀ other ∈ before, ∀ c ∈ other, isSpace c = false)
    (differs : ∀ other ∈ before, ¬ other <+: spelling)
    (parted : Parted rest) :
    (before ++ spelling :: after).findSome? (exactly? · (spelling ++ rest)) =
      some spelling := by
  rw [List.findSome?_append]
  have none : before.findSome? (exactly? · (spelling ++ rest)) = none := by
    rw [List.findSome?_eq_none_iff]
    intro other member
    exact exactly?_append_eq_none (solid other member) parted (differs other member)
  rw [none, Option.none_or, List.findSome?_cons, exactly?_append_self]

/-! ## Reading one terminal -/

/-- A full match before a space is the lexeme that its terminal reads. -/
theorem lexeme?_append
    {terminal : Terminal} {lexeme rest : List Char}
    (fits : lexeme ∈ terminal.pattern)
    (parted : Parted rest) :
    lexeme? terminal (lexeme ++ rest) = some lexeme := by
  cases terminal with
  | ident =>
      obtain ⟨c, more, rfl, nameStart, nameChars⟩ := mem_oneOf_mul_kstar_iff.1 fits
      have whole :=
        takeWhile_append_of_parted (fun _ => isNameChar_eq_false_of_isSpace) nameChars parted
      simp [lexeme?, nameStart, whole]
  | number =>
      obtain ⟨c, more, rfl, digit, digits⟩ := mem_oneOf_mul_kstar_iff.1 fits
      have whole :=
        takeWhile_append_of_parted (fun _ => isDigit_eq_false_of_isSpace) digits parted
      simp [lexeme?, digit, whole]
  | string =>
      obtain ⟨content, rfl, textChars⟩ := mem_pattern_string_iff.1 fits
      have quote : isTextChar '"' = false := by decide
      simp [lexeme?, List.takeWhile_append_of_pos textChars,
        List.dropWhile_append_of_pos textChars, quote]
  | relation =>
      have member := mem_pattern_relation_iff.1 fits
      obtain ⟨before, after, split, differs⟩ := relation_before member
      have solid : ∀ other ∈ before, ∀ c ∈ other, isSpace c = false := by
        intro other earlier
        exact relation_solid other (split ▸ List.mem_append_left _ earlier)
      simp only [lexeme?]
      rw [split]
      exact findSome?_exactly?_append solid differs parted
  | keyword word =>
      obtain rfl : lexeme = word.spelling := fits
      exact exactly?_append_self _ _
  | mark sign =>
      obtain rfl : lexeme = sign.spelling := fits
      exact exactly?_append_self _ _
  | endOfInput => cases fits

theorem relation?_append_eq_none
    {lexeme rest : List Char}
    (differs : ∀ spelling ∈ relationSpellings, ¬ spelling <+: lexeme)
    (parted : Parted rest) :
    lexeme? .relation (lexeme ++ rest) = none := by
  simp only [lexeme?]
  rw [List.findSome?_eq_none_iff]
  intro spelling member
  exact
    exactly?_append_eq_none (relation_solid spelling member) parted (differs spelling member)

/-! ## Choosing the terminal -/

theorem Keyword.spelling_mem_pattern_ident (word : Keyword) :
    word.spelling ∈ Terminal.ident.pattern := by
  have nameChars : (word.spelling.tail.all isNameChar) = true := by
    cases word <;> decide
  apply mem_oneOf_mul_kstar_iff.2
  cases word <;> exact ⟨_, _, rfl, by decide, List.all_eq_true.1 nameChars⟩

theorem Keyword.spelling_injective
    {word other : Keyword}
    (same : word.spelling = other.spelling) :
    word = other := by
  have injective :
      ∀ first ∈ Keyword.all, ∀ second ∈ Keyword.all,
        first.spelling = second.spelling → first = second := by
    decide
  exact injective word (Keyword.mem_all word) other (Keyword.mem_all other) same

theorem scan_eq_some_of_before
    {allowed : Terminal → Bool} {text lexeme : List Char} {terminal : Terminal}
    (before after : List Terminal)
    (order : Terminal.all = before ++ terminal :: after)
    (silent : ∀ earlier ∈ before, allowed earlier = true → lexeme? earlier text = none)
    (granted : allowed terminal = true)
    (read : lexeme? terminal text = some lexeme) :
    scan allowed text = some (classify allowed terminal lexeme, lexeme) := by
  unfold scan
  rw [order, List.findSome?_append]
  have none :
      before.findSome? (fun tried =>
        if allowed tried then
          (lexeme? tried text).map fun lexeme => (classify allowed tried lexeme, lexeme)
        else none) = none := by
    rw [List.findSome?_eq_none_iff]
    intro earlier member
    split
    · next earlierGranted => simp [silent earlier member earlierGranted]
    · rfl
  rw [none, Option.none_or, List.findSome?_cons, if_pos granted, read]
  rfl

theorem exists_before_of_scan
    {allowed : Terminal → Bool} {text lexeme : List Char} {terminal : Terminal}
    (scanned : scan allowed text = some (terminal, lexeme)) :
    ∃ before tried after,
      Terminal.all = before ++ tried :: after ∧
        (∀ earlier ∈ before, allowed earlier = true → lexeme? earlier text = none) ∧
        allowed tried = true ∧
        lexeme? tried text = some lexeme ∧
        terminal = classify allowed tried lexeme := by
  obtain ⟨before, tried, after, order, found, nothing⟩ := List.findSome?_eq_some_iff.1 scanned
  split at found
  · next granted =>
      obtain ⟨_, read, same⟩ := Option.map_eq_some_iff.1 found
      cases same
      refine ⟨before, tried, after, order, ?_, granted, read, rfl⟩
      intro earlier member earlierGranted
      have unread := nothing earlier member
      rw [if_pos earlierGranted] at unread
      exact Option.map_eq_none_iff.1 unread
  · cases found

/-- A word is read as a whole where names are allowed. -/
theorem scan_word_append
    {allowed : Terminal → Bool} {word rest : List Char}
    (fits : word ∈ Terminal.ident.pattern)
    (namesGranted : allowed .ident = true)
    (parted : Parted rest) :
    scan allowed (word ++ rest) = some (wordTerminal allowed word, word) :=
  scan_eq_some_of_before [] _ rfl (by simp) namesGranted (lexeme?_append fits parted)

/-- Every full match of an allowed terminal is read back before a space. -/
theorem scan_append
    {allowed : Terminal → Bool} {terminal : Terminal} {lexeme rest : List Char}
    (fits : lexeme ∈ terminal.pattern)
    (granted : allowed terminal = true)
    (unreserved : terminal = .ident → ∀ word : Keyword, lexeme ≠ word.spelling)
    (parted : Parted rest) :
    scan allowed (lexeme ++ rest) = some (terminal, lexeme) := by
  have read := lexeme?_append fits parted
  cases terminal with
  | ident =>
      rw [scan_word_append fits granted parted]
      rcases wordTerminal_cases allowed lexeme with ⟨name, _⟩ | ⟨reserved, _, _, spelled⟩
      · rw [name]
      · exact absurd spelled (unreserved rfl reserved)
  | number =>
      obtain ⟨c, more, rfl, digit, _⟩ := mem_oneOf_mul_kstar_iff.1 fits
      have silent :
          ∀ earlier ∈ [Terminal.ident], allowed earlier = true →
            lexeme? earlier (c :: more ++ rest) = none := by
        simp [lexeme?, isNameStart_eq_false_of_isDigit digit]
      exact scan_eq_some_of_before [.ident] _ rfl silent granted read
  | string =>
      obtain ⟨content, rfl, _⟩ := mem_pattern_string_iff.1 fits
      have silent :
          ∀ earlier ∈ [Terminal.ident, .number], allowed earlier = true →
            lexeme? earlier ('"' :: (content ++ ['"']) ++ rest) = none := by
        simp [lexeme?, isNameStart]
      exact scan_eq_some_of_before [.ident, .number] _ rfl silent granted read
  | relation =>
      have member := mem_pattern_relation_iff.1 fits
      have silent :
          ∀ earlier ∈ [Terminal.ident, .number, .string], allowed earlier = true →
            lexeme? earlier (lexeme ++ rest) = none := by
        simp only [relationSpellings, List.mem_cons, List.not_mem_nil, or_false] at member
        rcases member with rfl | rfl | rfl | rfl | rfl | rfl <;> simp [lexeme?, isNameStart]
      exact scan_eq_some_of_before [.ident, .number, .string] _ rfl silent granted read
  | keyword word =>
      obtain rfl : lexeme = word.spelling := fits
      by_cases namesGranted : allowed .ident = true
      · rw [scan_word_append (Keyword.spelling_mem_pattern_ident word) namesGranted parted]
        rcases wordTerminal_cases allowed word.spelling with
          ⟨_, none⟩ | ⟨reserved, found, _, spelled⟩
        · exact absurd rfl (none word granted)
        · rw [found, Keyword.spelling_injective spelled]
      · obtain ⟨before, after, split, differs⟩ := keyword_before word
        have order :
            Terminal.all =
              ([.ident, .number, .string, .relation] ++ before.map .keyword) ++
                .keyword word ::
                  (after.map .keyword ++ Mark.all.map .mark ++ [.endOfInput]) := by
          simp [Terminal.all, split]
        refine scan_eq_some_of_before _ _ order ?_ granted read
        intro earlier member earlierGranted
        rcases List.mem_append.1 member with general | reserved
        · simp only [List.mem_cons, List.not_mem_nil, or_false] at general
          rcases general with rfl | rfl | rfl | rfl
          · exact absurd earlierGranted namesGranted
          · cases word <;> rfl
          · cases word <;> rfl
          · exact relation?_append_eq_none (by cases word <;> decide) parted
        · obtain ⟨other, earlierWord, rfl⟩ := List.mem_map.1 reserved
          exact
            exactly?_append_eq_none (keyword_solid other) parted (differs other earlierWord)
  | mark sign =>
      obtain rfl : lexeme = sign.spelling := fits
      obtain ⟨before, after, split, differs⟩ := mark_before sign
      have order :
          Terminal.all =
            ([.ident, .number, .string, .relation] ++ Keyword.all.map .keyword ++
                before.map .mark) ++
              .mark sign :: (after.map .mark ++ [.endOfInput]) := by
        simp [Terminal.all, split]
      refine scan_eq_some_of_before _ _ order ?_ granted read
      intro earlier member _
      rcases List.mem_append.1 member with foreign | marks
      · rcases List.mem_append.1 foreign with general | reserved
        · simp only [List.mem_cons, List.not_mem_nil, or_false] at general
          rcases general with rfl | rfl | rfl | rfl
          · cases sign <;> rfl
          · cases sign <;> rfl
          · cases sign <;> rfl
          · exact relation?_append_eq_none (by cases sign <;> decide) parted
        · obtain ⟨other, _, rfl⟩ := List.mem_map.1 reserved
          exact
            exactly?_append_eq_none (keyword_solid other) parted
              (keyword_not_prefix_mark other sign)
      · obtain ⟨other, earlierMark, rfl⟩ := List.mem_map.1 marks
        exact exactly?_append_eq_none (mark_solid other) parted (differs other earlierMark)
  | endOfInput => cases fits

/-! ## No gap before a lexeme -/

/-- A lexeme starts neither with a space nor, unless it is a lone slash, with a slash. -/
theorem exists_first_of_fits
    {terminal : Terminal} {lexeme : List Char}
    (fits : lexeme ∈ terminal.pattern) :
    ∃ c more, lexeme = c :: more ∧ isSpace c = false ∧ (c = '/' → more = []) := by
  cases terminal with
  | ident =>
      obtain ⟨c, more, rfl, nameStart, _⟩ := mem_oneOf_mul_kstar_iff.1 fits
      refine ⟨c, more, rfl, ?_, ?_⟩
      · cases space : isSpace c with
        | false => rfl
        | true =>
            rcases isSpace_eq_true_iff.1 space with rfl | rfl | rfl | rfl | rfl <;>
              exact absurd nameStart (by decide)
      · rintro rfl
        exact absurd nameStart (by decide)
  | number =>
      obtain ⟨c, more, rfl, digit, _⟩ := mem_oneOf_mul_kstar_iff.1 fits
      refine ⟨c, more, rfl, ?_, ?_⟩
      · cases space : isSpace c with
        | false => rfl
        | true =>
            rw [isDigit_eq_false_of_isSpace space] at digit
            cases digit
      · rintro rfl
        exact absurd digit (by decide)
  | string =>
      obtain ⟨content, rfl, _⟩ := mem_pattern_string_iff.1 fits
      exact ⟨'"', _, rfl, by decide, fun slash => absurd slash (by decide)⟩
  | relation =>
      have member := mem_pattern_relation_iff.1 fits
      simp only [relationSpellings, List.mem_cons, List.not_mem_nil, or_false] at member
      rcases member with rfl | rfl | rfl | rfl | rfl | rfl <;>
        exact ⟨_, _, rfl, by decide, by decide⟩
  | keyword word =>
      obtain rfl : lexeme = word.spelling := fits
      cases word <;> exact ⟨_, _, rfl, by decide, by decide⟩
  | mark sign =>
      obtain rfl : lexeme = sign.spelling := fits
      cases sign <;> exact ⟨_, _, rfl, by decide, by decide⟩
  | endOfInput => cases fits

theorem gap_lexeme_append
    {terminal : Terminal} {lexeme rest : List Char}
    (fits : lexeme ∈ terminal.pattern)
    (parted : Parted rest) :
    gap (lexeme ++ rest) = [] := by
  obtain ⟨c, more, rfl, noSpace, lone⟩ := exists_first_of_fits fits
  have noComment : (c == '/' && (more ++ rest).head? == some '/') = false := by
    by_cases slash : c = '/'
    · rw [lone slash, List.nil_append]
      cases rest with
      | nil => simp
      | cons d rest =>
          have space := parted d rfl
          have notSlash : d ≠ '/' := by
            rintro rfl
            exact absurd space (by decide)
          simp [notSlash]
    · simp [slash]
  simp only [gap, List.cons_append, gapFrom, noSpace, noComment, Bool.false_eq_true, if_false]

theorem gap_space_cons {c : Char} (text : List Char) (space : isSpace c = true) :
    gap (c :: text) = c :: gap text := by
  simp [gap, gapFrom, space]

end Lexing

end Scriptlet
