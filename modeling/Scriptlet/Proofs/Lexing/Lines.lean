import Scriptlet.Proofs.Lexing.Spacing

/-!
# Lexemes and gaps at the end of a line

No lexeme reaches over a line break and every comment ends with one. What is read at the start of a
text is therefore read unchanged when further lines follow the text.
-/

namespace Scriptlet.Lexing

/-! ## Lexemes -/

theorem takeWhile_append_newline
    {accepts : Char → Bool}
    (excludes : accepts '\n' = false)
    (text more : List Char) :
    (text ++ '\n' :: more).takeWhile accepts = text.takeWhile accepts := by
  induction text with
  | nil => simp [excludes]
  | cons c rest inductionHypothesis => simp [List.takeWhile_cons, inductionHypothesis]

theorem exactly?_append_newline
    {spelling : List Char}
    (solid : ∀ c ∈ spelling, isSpace c = false)
    (text more : List Char) :
    exactly? spelling (text ++ '\n' :: more) = exactly? spelling text := by
  have parted : Parted ('\n' :: more) := by
    intro c first
    cases first
    decide
  have same : spelling.isPrefixOf (text ++ '\n' :: more) = spelling.isPrefixOf text := by
    rw [Bool.eq_iff_iff, List.isPrefixOf_iff_prefix, List.isPrefixOf_iff_prefix]
    constructor
    · exact prefix_of_prefix_append solid parted
    · exact fun starts => starts.trans (List.prefix_append text _)
  rw [exactly?, exactly?, same]

theorem string?_append_newline (rest more : List Char) :
    lexeme? .string ('"' :: rest ++ '\n' :: more) = lexeme? .string ('"' :: rest) := by
  have breaks : isTextChar '\n' = false := by decide
  simp only [List.cons_append, lexeme?]
  rw [takeWhile_append_newline breaks, List.dropWhile_append]
  cases closing : rest.dropWhile isTextChar with
  | nil => simp [breaks]
  | cons c after =>
      by_cases quote : c = '"'
      · simp [quote]
      · simp [quote]

theorem relation?_append_newline (text more : List Char) :
    lexeme? .relation (text ++ '\n' :: more) = lexeme? .relation text := by
  have same :
      ∀ spellings : List (List Char), (∀ spelling ∈ spellings, spelling ∈ relationSpellings) →
        spellings.findSome? (exactly? · (text ++ '\n' :: more)) =
          spellings.findSome? (exactly? · text) := by
    intro spellings
    induction spellings with
    | nil => simp
    | cons spelling spellings inductionHypothesis =>
        intro members
        obtain ⟨member, others⟩ := List.forall_mem_cons.1 members
        rw [List.findSome?_cons, List.findSome?_cons, inductionHypothesis others,
          exactly?_append_newline (relation_solid spelling member)]
  simp only [lexeme?]
  exact same relationSpellings fun _ member => member

theorem lexeme?_append_newline (terminal : Terminal) (text more : List Char) :
    lexeme? terminal (text ++ '\n' :: more) = lexeme? terminal text := by
  cases terminal with
  | ident =>
      cases text with
      | nil => simp [lexeme?, isNameStart]
      | cons c rest =>
          have breaks : isNameChar '\n' = false := by decide
          simp [lexeme?, takeWhile_append_newline breaks]
  | number =>
      cases text with
      | nil => simp [lexeme?]
      | cons c rest =>
          have breaks : '\n'.isDigit = false := by decide
          simp [lexeme?, takeWhile_append_newline breaks]
  | string =>
      cases text with
      | nil => simp [lexeme?]
      | cons c rest =>
          by_cases quote : c = '"'
          · subst quote
            exact string?_append_newline rest more
          · simp [lexeme?, quote]
  | relation => exact relation?_append_newline text more
  | keyword word => exact exactly?_append_newline (keyword_solid word) text more
  | mark sign => exact exactly?_append_newline (mark_solid sign) text more
  | endOfInput => simp [lexeme?]

theorem scan_append_newline (allowed : Terminal → Bool) (text more : List Char) :
    scan allowed (text ++ '\n' :: more) = scan allowed text := by
  simp only [scan, lexeme?_append_newline]

/-! ## Gaps -/

theorem gapFrom_append_newline (inComment : Bool) (text more : List Char) :
    gapFrom inComment (text ++ '\n' :: more) =
      if gapFrom inComment text = text then text ++ '\n' :: gap more
      else gapFrom inComment text := by
  induction text generalizing inComment with
  | nil => cases inComment <;> simp [gapFrom, gap, isSpace]
  | cons c rest inductionHypothesis =>
      cases inComment with
      | true =>
          simp only [List.cons_append, gapFrom, inductionHypothesis, List.cons.injEq, true_and]
          split <;> rfl
      | false =>
          have sameHead :
              ((rest ++ '\n' :: more).head? == some '/') = (rest.head? == some '/') := by
            cases rest <;> simp
          simp only [List.cons_append, gapFrom, sameHead, inductionHypothesis]
          by_cases space : isSpace c = true
          · simp only [space, if_true, List.cons.injEq, true_and]
            split <;> rfl
          · by_cases slashes : (c == '/' && rest.head? == some '/') = true
            · simp only [space, slashes, Bool.false_eq_true, if_false, if_true, List.cons.injEq,
                true_and]
              split <;> rfl
            · simp [space, slashes]

theorem afterGap_eq_nil_iff {text : List Char} : afterGap text = [] ↔ gap text = text := by
  have whole := gap_append_afterGap text
  constructor
  · intro atEnd
    rwa [atEnd, List.append_nil] at whole
  · intro onlyGap
    rw [afterGap, onlyGap, List.drop_length]

theorem afterGap_append_newline_of_eq_nil
    {text : List Char} (more : List Char)
    (atEnd : afterGap text = []) :
    afterGap (text ++ '\n' :: more) = afterGap more := by
  have onlyGap : gapFrom false text = text := afterGap_eq_nil_iff.1 atEnd
  have gapWhole : gap (text ++ '\n' :: more) = text ++ '\n' :: gap more := by
    rw [gap, gapFrom_append_newline, if_pos onlyGap]
  have splitWhole : text ++ '\n' :: more = (text ++ '\n' :: gap more) ++ afterGap more := by
    rw [List.append_assoc, List.cons_append, gap_append_afterGap]
  rw [afterGap, gapWhole, splitWhole, List.drop_left]

theorem afterGap_append_newline_of_ne_nil
    {text : List Char} (more : List Char)
    (unfinished : afterGap text ≠ []) :
    afterGap (text ++ '\n' :: more) = afterGap text ++ '\n' :: more := by
  have notOnlyGap : ¬ gapFrom false text = text :=
    fun onlyGap => unfinished (afterGap_eq_nil_iff.2 onlyGap)
  have sameGap : gap (text ++ '\n' :: more) = gap text := by
    rw [gap, gapFrom_append_newline, if_neg notOnlyGap, gap]
  have shorter : (gap text).length ≤ text.length := by
    have whole := congrArg List.length (gap_append_afterGap text)
    rw [List.length_append] at whole
    omega
  rw [afterGap, sameGap, List.drop_append_of_le_length shorter, ← afterGap]

end Scriptlet.Lexing
