import Scriptlet.Console.Line
import Scriptlet.Proofs.Lexing.Spacing

/-!
# Invisible characters

The console drops invisible characters from what is entered, which could join what stands on both
sides of one. A text is safe from this up to its first quote or slash if all characters before it
are visible. Then erasing the invisible characters changes no lexeme that is read at its start,
except for the content of a string literal, and it changes no gap except for the content of
comments.
-/

namespace Scriptlet

namespace Line

def invisibles : List Char :=
  ['\u200b', '\u200c', '\u200d', '\ufeff', '\u00a0', '\r']

theorem isInvisible_iff {c : Char} : isInvisible c = true ↔ c ∈ invisibles := by
  simp [isInvisible, invisibles, or_assoc]

/-- The characters of a class that no invisible one belongs to are visible. -/
theorem isInvisible_eq_false
    {accepts : Char → Bool} {c : Char}
    (accepted : accepts c = true)
    (excludes : invisibles.all (!accepts ·) = true) :
    isInvisible c = false := by
  refine Bool.eq_false_iff.2 fun invisible => ?_
  have refused := List.all_eq_true.1 excludes c (isInvisible_iff.1 invisible)
  rw [accepted] at refused
  cases refused

/-- A text without its invisible characters. -/
def erased (text : List Char) : List Char :=
  text.filter (!isInvisible ·)

theorem toList_visible (text : String) : (visible text).toList = erased text.toList :=
  String.toList_ofList

theorem erased_cons_of_visible
    {c : Char} (rest : List Char)
    (seen : isInvisible c = false) :
    erased (c :: rest) = c :: erased rest := by
  simp [erased, seen]

theorem erased_cons_of_invisible
    {c : Char} (rest : List Char)
    (unseen : isInvisible c = true) :
    erased (c :: rest) = erased rest := by
  simp [erased, unseen]

theorem erased_append (first second : List Char) :
    erased (first ++ second) = erased first ++ erased second :=
  List.filter_append ..

theorem erased_eq_self
    {text : List Char}
    (allSeen : ∀ c ∈ text, isInvisible c = false) :
    erased text = text :=
  List.filter_eq_self.2 fun c member => by simp [allSeen c member]

theorem visible_eq_self
    {text : String}
    (allSeen : ∀ c ∈ text.toList, isInvisible c = false) :
    visible text = text :=
  String.toList_injective ((toList_visible text).trans (erased_eq_self allSeen))

/-- Erasing commutes with cutting a text behind its first characters of a class, if the characters
outside the class are visible. -/
theorem takeWhile_dropWhile_erased
    {accepts : Char → Bool}
    (stops : ∀ c, accepts c = false → isInvisible c = false)
    (text : List Char) :
    (erased text).takeWhile accepts = erased (text.takeWhile accepts) ∧
      (erased text).dropWhile accepts = erased (text.dropWhile accepts) := by
  induction text with
  | nil => exact ⟨rfl, rfl⟩
  | cons c rest inductionHypothesis =>
      cases accepted : accepts c with
      | true =>
          rw [List.takeWhile_cons_of_pos accepted, List.dropWhile_cons_of_pos accepted]
          cases unseen : isInvisible c with
          | true =>
              rw [erased_cons_of_invisible _ unseen, erased_cons_of_invisible _ unseen]
              exact inductionHypothesis
          | false =>
              rw [erased_cons_of_visible _ unseen, erased_cons_of_visible _ unseen,
                List.takeWhile_cons_of_pos accepted, List.dropWhile_cons_of_pos accepted]
              exact ⟨congrArg _ inductionHypothesis.1, inductionHypothesis.2⟩
      | false =>
          have seen := stops c accepted
          simp [seen, accepted, erased]

end Line

namespace Lexing

open Line

/-! ## Texts that erasing does not join -/

/-- The characters that open neither a string literal nor a comment. -/
def isPlain (c : Char) : Bool :=
  c != '"' && c != '/'

theorem isPlain_eq_true
    {accepts : Char → Bool} {c : Char}
    (accepted : accepts c = true)
    (noQuote : accepts '"' = false)
    (noSlash : accepts '/' = false) :
    isPlain c = true := by
  simp [isPlain, ne_of_accepts accepted noQuote, ne_of_accepts accepted noSlash]

/-- A text whose characters before the first quote or slash are visible. -/
def Sheltered (text : List Char) : Prop :=
  ∀ c ∈ text.takeWhile isPlain, isInvisible c = false

theorem sheltered_nil : Sheltered [] := by
  simp [Sheltered]

theorem sheltered_cons_iff {c : Char} {rest : List Char} :
    Sheltered (c :: rest) ↔
      isInvisible c = false ∧ (isPlain c = true → Sheltered rest) := by
  cases plain : isPlain c with
  | true => simp [Sheltered, plain]
  | false =>
      have seen : isInvisible c = false := by
        have opens : c = '"' ∨ c = '/' := by
          simpa [isPlain, Classical.or_iff_not_imp_left] using plain
        rcases opens with rfl | rfl <;> decide
      simp [Sheltered, plain, seen]

theorem sheltered_append
    {first rest : List Char}
    (allSeen : ∀ c ∈ first, isInvisible c = false)
    (sheltered : Sheltered rest) :
    Sheltered (first ++ rest) := by
  induction first with
  | nil => exact sheltered
  | cons c first inductionHypothesis =>
      obtain ⟨seen, others⟩ := List.forall_mem_cons.1 allSeen
      exact sheltered_cons_iff.2 ⟨seen, fun _ => inductionHypothesis others⟩

theorem head?_erased
    {text : List Char}
    (sheltered : Sheltered text) :
    (erased text).head? = text.head? := by
  cases text with
  | nil => rfl
  | cons c rest => rw [erased_cons_of_visible rest (sheltered_cons_iff.1 sheltered).1]; rfl

/-- The first characters of a class of plain characters are the same after erasing. -/
theorem takeWhile_erased
    {accepts : Char → Bool} {text : List Char}
    (noQuote : accepts '"' = false)
    (noSlash : accepts '/' = false)
    (sheltered : Sheltered text) :
    (erased text).takeWhile accepts = text.takeWhile accepts := by
  induction text with
  | nil => rfl
  | cons c rest inductionHypothesis =>
      obtain ⟨seen, further⟩ := sheltered_cons_iff.1 sheltered
      rw [erased_cons_of_visible rest seen]
      cases accepted : accepts c with
      | true =>
          rw [List.takeWhile_cons_of_pos accepted, List.takeWhile_cons_of_pos accepted,
            inductionHypothesis (further (isPlain_eq_true accepted noQuote noSlash))]
      | false => simp [accepted]

theorem head?_dropWhile_erased
    {accepts : Char → Bool} {text : List Char}
    (noQuote : accepts '"' = false)
    (noSlash : accepts '/' = false)
    (sheltered : Sheltered text) :
    ((erased text).dropWhile accepts).head? = (text.dropWhile accepts).head? := by
  induction text with
  | nil => rfl
  | cons c rest inductionHypothesis =>
      obtain ⟨seen, further⟩ := sheltered_cons_iff.1 sheltered
      rw [erased_cons_of_visible rest seen]
      cases accepted : accepts c with
      | true =>
          rw [List.dropWhile_cons_of_pos accepted, List.dropWhile_cons_of_pos accepted]
          exact inductionHypothesis (further (isPlain_eq_true accepted noQuote noSlash))
      | false => simp [accepted]

/-- Whether a spelling is read does not depend on invisible characters. All its characters but
the last have to be plain, so that they do not end the sheltered part of the text. -/
theorem exactly?_erased
    {spelling text : List Char}
    (plain : spelling.dropLast.all isPlain = true)
    (sheltered : Sheltered text) :
    exactly? spelling (erased text) = exactly? spelling text := by
  have samePrefix : spelling.isPrefixOf (erased text) = spelling.isPrefixOf text := by
    induction spelling generalizing text with
    | nil => simp
    | cons c others inductionHypothesis =>
        cases text with
        | nil => rfl
        | cons d rest =>
            obtain ⟨seen, further⟩ := sheltered_cons_iff.1 sheltered
            rw [erased_cons_of_visible rest seen, List.isPrefixOf_cons_cons,
              List.isPrefixOf_cons_cons]
            by_cases same : c = d
            · subst same
              cases others with
              | nil => simp
              | cons e others =>
                  rw [List.dropLast_cons_of_ne_nil (List.cons_ne_nil e others), List.all_cons,
                    Bool.and_eq_true_iff] at plain
                  obtain ⟨plainFirst, plainOthers⟩ := plain
                  rw [inductionHypothesis plainOthers (further plainFirst)]
            · rw [beq_eq_false_iff_ne.2 same, Bool.false_and, Bool.false_and]
  simp only [exactly?, samePrefix]

/-! ## Lexemes -/

theorem isInvisible_eq_false_of_isNameChar {c : Char} (nameChar : isNameChar c = true) :
    isInvisible c = false :=
  isInvisible_eq_false nameChar (by decide)

theorem isInvisible_eq_false_of_isDigit {c : Char} (digit : c.isDigit = true) :
    isInvisible c = false :=
  isInvisible_eq_false digit (by decide)

/-- Only the lexemes of string literals can have invisible characters. -/
theorem visible_of_mem_pattern
    {terminal : Terminal} {lexeme : List Char}
    (notString : terminal ≠ .string)
    (fits : lexeme ∈ terminal.pattern) :
    ∀ c ∈ lexeme, isInvisible c = false := by
  cases terminal with
  | ident =>
      obtain ⟨c, rest, rfl, nameStart, nameChars⟩ := mem_oneOf_mul_kstar_iff.1 fits
      refine List.forall_mem_cons.2 ⟨isInvisible_eq_false nameStart (by decide), ?_⟩
      exact fun d member => isInvisible_eq_false_of_isNameChar (nameChars d member)
  | number =>
      obtain ⟨c, rest, rfl, digit, digits⟩ := mem_oneOf_mul_kstar_iff.1 fits
      refine List.forall_mem_cons.2 ⟨isInvisible_eq_false_of_isDigit digit, ?_⟩
      exact fun d member => isInvisible_eq_false_of_isDigit (digits d member)
  | string => exact absurd rfl notString
  | relation =>
      have seen :
          (relationSpellings.all fun spelling => spelling.all (!isInvisible ·)) = true := by
        decide
      simpa using List.all_eq_true.1 seen lexeme (mem_pattern_relation_iff.1 fits)
  | keyword word =>
      obtain rfl : lexeme = word.spelling := fits
      have seen : word.spelling.all (!isInvisible ·) = true := by
        cases word <;> decide
      simpa using seen
  | mark sign =>
      obtain rfl : lexeme = sign.spelling := fits
      have seen : sign.spelling.all (!isInvisible ·) = true := by
        cases sign <;> decide
      simpa using seen
  | endOfInput => exact absurd fits (Language.notMem_zero lexeme)

theorem erased_of_lexeme?
    {terminal : Terminal} {text lexeme : List Char}
    (notString : terminal ≠ .string)
    (found : lexeme? terminal text = some lexeme) :
    erased lexeme = lexeme :=
  erased_eq_self (visible_of_mem_pattern notString (lexeme?_mem_pattern found))

/-- A lexeme that is a first character with the further ones behind it is the same after
erasing. -/
theorem run?_erased
    {starts further : Char → Bool} {c : Char} {rest : List Char}
    (sheltered : Sheltered (c :: rest))
    (noQuote : starts '"' = false ∧ further '"' = false)
    (noSlash : starts '/' = false ∧ further '/' = false) :
    (if starts c then some (c :: (erased rest).takeWhile further) else none) =
      if starts c then some (c :: rest.takeWhile further) else none := by
  split
  · next accepted =>
      have shelteredRest :=
        (sheltered_cons_iff.1 sheltered).2 (isPlain_eq_true accepted noQuote.1 noSlash.1)
      rw [takeWhile_erased noQuote.2 noSlash.2 shelteredRest]
  · rfl

theorem string?_erased (rest : List Char) :
    lexeme? .string ('"' :: erased rest) = (lexeme? .string ('"' :: rest)).map erased := by
  have stops : ∀ c, isTextChar c = false → isInvisible c = false := by
    intro c ends
    have closes : c = '"' ∨ c = '\n' := by
      simpa [isTextChar, Classical.or_iff_not_imp_left] using ends
    rcases closes with rfl | rfl <;> decide
  obtain ⟨taken, dropped⟩ := takeWhile_dropWhile_erased stops rest
  have quote : isInvisible '"' = false := by decide
  simp only [lexeme?, taken, dropped]
  cases remaining : rest.dropWhile isTextChar with
  | nil => rfl
  | cons c more =>
      have ends : isTextChar c = false := by
        simpa [remaining] using List.head?_dropWhile_not isTextChar rest
      rw [erased_cons_of_visible more (stops c ends)]
      by_cases closes : c = '"'
      · subst closes
        simp [erased_cons_of_visible, erased_append, quote]
        rfl
      · simp [closes]

theorem relation?_erased
    {text : List Char}
    (sheltered : Sheltered text) :
    lexeme? .relation (erased text) = lexeme? .relation text := by
  have plain :
      (relationSpellings.all fun spelling => spelling.dropLast.all isPlain) = true := by
    decide
  have same :
      ∀ spelling ∈ relationSpellings,
        exactly? spelling (erased text) = exactly? spelling text :=
    fun spelling member => exactly?_erased (List.all_eq_true.1 plain spelling member) sheltered
  simp only [relationSpellings, List.forall_mem_cons] at same
  simp [lexeme?, relationSpellings, List.findSome?_cons, same]

theorem lexeme?_erased
    {text : List Char}
    (sheltered : Sheltered text)
    (terminal : Terminal) :
    lexeme? terminal (erased text) = (lexeme? terminal text).map erased := by
  by_cases isString : terminal = .string
  · subst isString
    cases text with
    | nil => rfl
    | cons c rest =>
        rw [erased_cons_of_visible rest (sheltered_cons_iff.1 sheltered).1]
        by_cases quote : c = '"'
        · subst quote
          exact string?_erased rest
        · simp [lexeme?, quote]
  · -- Apart from string literals the very same lexeme is read.
    have same : lexeme? terminal (erased text) = lexeme? terminal text := by
      cases terminal with
      | ident =>
          cases text with
          | nil => rfl
          | cons c rest =>
              rw [erased_cons_of_visible rest (sheltered_cons_iff.1 sheltered).1]
              exact run?_erased sheltered (by decide) (by decide)
      | number =>
          cases text with
          | nil => rfl
          | cons c rest =>
              rw [erased_cons_of_visible rest (sheltered_cons_iff.1 sheltered).1]
              exact run?_erased sheltered (by decide) (by decide)
      | string => exact absurd rfl isString
      | relation => exact relation?_erased sheltered
      | keyword word => exact exactly?_erased (by cases word <;> decide) sheltered
      | mark sign => exact exactly?_erased (by cases sign <;> decide) sheltered
      | endOfInput => simp [lexeme?]
    rw [same]
    cases found : lexeme? terminal text with
    | none => rfl
    | some lexeme => rw [Option.map_some, erased_of_lexeme? isString found]

/-- What is read at the start of a sheltered text is also read there after erasing. -/
theorem scan_erased
    {allowed : Terminal → Bool} {text lexeme : List Char} {terminal : Terminal}
    (sheltered : Sheltered text)
    (scanned : scan allowed text = some (terminal, lexeme)) :
    scan allowed (erased text) = some (terminal, erased lexeme) := by
  have erasedScan :
      scan allowed (erased text) =
        (scan allowed text).map fun found => (found.1, erased found.2) := by
    unfold scan
    rw [List.map_findSome?]
    congr 1
    funext tried
    simp only [Function.comp_apply, lexeme?_erased sheltered]
    split
    · cases found : lexeme? tried text with
      | none => rfl
      | some read =>
          by_cases isIdent : tried = .ident
          · subst isIdent
            simp [erased_of_lexeme? Terminal.noConfusion found]
          · simp [classify]
    · rfl
  rw [erasedScan, scanned]
  rfl

/-! ## Gaps -/

/-- A sheltered text that is sheltered behind a slash at its start as well, so that erasing makes
no comment of the slash. -/
structure Anchored (text : List Char) : Prop where
  sheltered : Sheltered text
  behindSlash : ∀ rest, text = '/' :: rest → Sheltered rest

/-- A text that starts with a lexeme is anchored if it is sheltered behind the lexeme. -/
theorem anchored_of_scan
    {allowed : Terminal → Bool} {text lexeme : List Char} {terminal : Terminal}
    (scanned : scan allowed text = some (terminal, lexeme))
    (sheltered : Sheltered (text.drop lexeme.length)) :
    Anchored text := by
  have fits := (scan_mem_pattern scanned).1
  obtain ⟨nonempty, rest, rfl⟩ := scan_prefix_of_eq_some scanned
  rw [List.drop_left] at sheltered
  by_cases isString : terminal = .string
  · subst isString
    obtain ⟨content, rfl, _⟩ := mem_pattern_string_iff.1 fits
    refine ⟨sheltered_cons_iff.2 ⟨by decide, fun plain => absurd plain (by decide)⟩, ?_⟩
    rintro rest impossible
    cases impossible
  · have allSeen := visible_of_mem_pattern isString fits
    refine ⟨sheltered_append allSeen sheltered, fun more startsSlash => ?_⟩
    obtain ⟨first, others, rfl⟩ := List.exists_cons_of_ne_nil nonempty
    cases startsSlash
    exact sheltered_append (fun c member => allSeen c (List.mem_cons_of_mem _ member)) sheltered

theorem isInvisible_eq_false_of_isSpace
    {c : Char}
    (space : isSpace c = true)
    (noReturn : c ≠ '\r') :
    isInvisible c = false := by
  rcases isSpace_eq_true_iff.1 space with rfl | rfl | rfl | rfl | rfl
  case inr.inr.inr.inl => exact absurd rfl noReturn
  all_goals decide

/-- No gap appears at the start of an anchored text that starts with none. -/
theorem gapFrom_erased_of_anchored
    {c : Char} {rest : List Char}
    (solid : ¬ isSpace c = true)
    (noComment : ¬ (c == '/' && rest.head? == some '/') = true)
    (anchored : Anchored (c :: rest)) :
    gapFrom false (erased (c :: rest)) = [] := by
  have seen := (sheltered_cons_iff.1 anchored.sheltered).1
  have stillNone : ¬ (c == '/' && (erased rest).head? == some '/') = true := by
    rw [Bool.and_eq_true_iff] at noComment ⊢
    rintro ⟨slash, second⟩
    have behind := anchored.behindSlash rest (by rw [eq_of_beq slash])
    rw [head?_erased behind] at second
    exact noComment ⟨slash, second⟩
  rw [erased_cons_of_visible _ seen, gapFrom, if_neg solid, if_neg stillNone]

/-- Erasing leaves of a gap all but the invisible characters of its comments. The induction is on
the text; a gap that ends needs an anchor, or else it could go on behind an erased character. -/
theorem gapFrom_erased
    {inComment : Bool} {text : List Char}
    (noReturn : '\r' ∉ text)
    (anchored : Anchored (text.drop (gapFrom inComment text).length)) :
    gapFrom inComment (erased text) = erased (gapFrom inComment text) := by
  induction text generalizing inComment with
  | nil => cases inComment <;> rfl
  | cons c rest inductionHypothesis =>
      rw [List.mem_cons, not_or] at noReturn
      obtain ⟨notReturn, noReturn⟩ := noReturn
      cases inComment with
      | true =>
          have continued := @inductionHypothesis (c != '\n') noReturn anchored
          cases unseen : isInvisible c with
          | true =>
              have sameLine : (c != '\n') = true :=
                bne_iff_ne.2 (ne_of_accepts unseen (by decide))
              rw [sameLine] at continued
              rw [gapFrom, erased_cons_of_invisible _ unseen, erased_cons_of_invisible _ unseen,
                sameLine]
              exact continued
          | false =>
              rw [gapFrom, erased_cons_of_visible _ unseen, erased_cons_of_visible _ unseen,
                gapFrom, continued]
      | false =>
          unfold gapFrom at anchored
          rw [gapFrom]
          split at anchored
          · next space =>
              have seen := isInvisible_eq_false_of_isSpace space (Ne.symm notReturn)
              rw [if_pos space, erased_cons_of_visible _ seen, erased_cons_of_visible _ seen,
                gapFrom, if_pos space, inductionHypothesis noReturn anchored]
          · next solid =>
              rw [if_neg solid]
              split at anchored
              · next slashes =>
                  obtain ⟨rfl, line, rfl⟩ : c = '/' ∧ ∃ line, rest = '/' :: line := by
                    cases rest with
                    | nil => simp at slashes
                    | cons d line => simpa using slashes
                  have seen : isInvisible '/' = false := by decide
                  have continued := @inductionHypothesis true noReturn anchored
                  rw [erased_cons_of_visible line seen] at continued
                  rw [if_pos slashes, erased_cons_of_visible _ seen, erased_cons_of_visible _ seen,
                    erased_cons_of_visible _ seen, ← continued]
                  rfl
              · next noComment =>
                  rw [if_neg noComment]
                  exact gapFrom_erased_of_anchored solid noComment anchored

theorem afterGap_erased
    {text : List Char}
    (noReturn : '\r' ∉ text)
    (anchored : Anchored (afterGap text)) :
    afterGap (erased text) = erased (afterGap text) := by
  have split := congrArg erased (gap_append_afterGap text)
  rw [erased_append] at split
  rw [afterGap, gap, gapFrom_erased noReturn anchored, ← split]
  exact List.drop_left

theorem sheltered_of_afterGap
    {text : List Char}
    (noReturn : '\r' ∉ text)
    (sheltered : Sheltered (afterGap text)) :
    Sheltered text := by
  induction text with
  | nil => exact sheltered_nil
  | cons c rest inductionHypothesis =>
      rw [List.mem_cons, not_or] at noReturn
      obtain ⟨notReturn, noReturn⟩ := noReturn
      unfold afterGap gap gapFrom at sheltered
      split at sheltered
      · next space =>
          have seen := isInvisible_eq_false_of_isSpace space (Ne.symm notReturn)
          exact sheltered_cons_iff.2 ⟨seen, fun _ => inductionHypothesis noReturn sheltered⟩
      · split at sheltered
        · next slashes =>
            obtain rfl : c = '/' := by simpa using (Bool.and_eq_true_iff.1 slashes).1
            exact sheltered_cons_iff.2 ⟨by decide, fun plain => absurd plain (by decide)⟩
        · exact sheltered

end Lexing

end Scriptlet
