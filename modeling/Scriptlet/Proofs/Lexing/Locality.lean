import Scriptlet.Proofs.Lexing.Spacing

/-!
# What stands behind a lexeme

Reading looks no further than the first character behind a gap or a lexeme. So if a gap or a lexeme
lies within the front of a text, the back of the text may be replaced by anything that starts with
a space: the same gap is skipped and the same lexeme is read under the same terminal.
-/

namespace Scriptlet.Lexing

/-! ## Gaps -/

/-- A gap before a nonempty front stays the same. The induction follows the gap; where it ends, the
front itself starts neither a space nor a comment, and a space behind it cannot make it one. -/
theorem gapFrom_append_of_parted
    {inComment : Bool} {skipped front back other : List Char}
    (found : gapFrom inComment (skipped ++ (front ++ back)) = skipped)
    (nonempty : front ≠ [])
    (parted : Parted other) :
    gapFrom inComment (skipped ++ (front ++ other)) = skipped := by
  induction skipped generalizing inComment with
  | nil =>
      obtain ⟨first, more, rfl⟩ := List.exists_cons_of_ne_nil nonempty
      cases inComment with
      | true => cases found
      | false =>
          have sameSlashes :
              (first == '/' && (more ++ other).head? == some '/') = true →
                (first == '/' && (more ++ back).head? == some '/') = true := by
            cases more with
            | cons second more => exact fun slashes => slashes
            | nil =>
                intro slashes
                have begins : other.head? = some '/' := by
                  simpa using (Bool.and_eq_true_iff.1 slashes).2
                exact absurd (parted '/' begins) (by decide)
          simp only [List.nil_append, List.cons_append, gapFrom] at found ⊢
          split at found
          · cases found
          · next solid =>
              rw [if_neg solid]
              split at found
              · cases found
              · next noComment => rw [if_neg fun slashes => noComment (sameSlashes slashes)]
  | cons c skipped inductionHypothesis =>
      cases inComment with
      | true =>
          have foundRest := (List.cons.inj found).2
          rw [List.cons_append, gapFrom, inductionHypothesis foundRest]
      | false =>
          simp only [List.cons_append, gapFrom] at found ⊢
          split at found
          · next space =>
              have foundRest := (List.cons.inj found).2
              rw [if_pos space, inductionHypothesis foundRest]
          · next solid =>
              split at found
              · next slashes =>
                  have foundRest := (List.cons.inj found).2
                  have sameHead :
                      (skipped ++ (front ++ other)).head? =
                        (skipped ++ (front ++ back)).head? := by
                    have present : skipped ++ front ≠ [] := by simp [nonempty]
                    rw [← List.append_assoc, ← List.append_assoc,
                      List.head?_append_of_ne_nil _ present, List.head?_append_of_ne_nil _ present]
                  rw [if_neg solid, sameHead, if_pos slashes, inductionHypothesis foundRest]
              · cases found

theorem afterGap_append_of_parted
    {text front back other : List Char}
    (remaining : afterGap text = front ++ back)
    (nonempty : front ≠ [])
    (parted : Parted other) :
    afterGap (gap text ++ (front ++ other)) = front ++ other := by
  have found : gapFrom false (gap text ++ (front ++ back)) = gap text := by
    rw [← remaining, gap_append_afterGap]
    rfl
  have sameGap : gap (gap text ++ (front ++ other)) = gap text :=
    gapFrom_append_of_parted found nonempty parted
  rw [afterGap, sameGap, List.drop_left]

/-! ## Lexemes of one terminal -/

theorem takeWhile_append_eq_of_parted
    {accepts : Char → Bool} {front back other : List Char}
    (excludes : ∀ c, isSpace c = true → accepts c = false)
    (within : ((front ++ back).takeWhile accepts).length ≤ front.length)
    (parted : Parted other) :
    (front ++ other).takeWhile accepts = (front ++ back).takeWhile accepts := by
  induction front with
  | nil =>
      have nothing : back.takeWhile accepts = [] :=
        List.eq_nil_of_length_eq_zero (Nat.le_zero.1 within)
      rw [List.nil_append, List.nil_append, nothing]
      cases other with
      | nil => rfl
      | cons c other => rw [List.takeWhile_cons_of_neg (by simp [excludes c (parted c rfl)])]
  | cons c front inductionHypothesis =>
      by_cases accepted : accepts c = true
      · rw [List.cons_append, List.takeWhile_cons_of_pos accepted, List.length_cons,
          List.length_cons] at within
        rw [List.cons_append, List.cons_append, List.takeWhile_cons_of_pos accepted,
          List.takeWhile_cons_of_pos accepted, inductionHypothesis (by omega)]
      · rw [List.cons_append, List.cons_append, List.takeWhile_cons_of_neg accepted,
          List.takeWhile_cons_of_neg accepted]

theorem exactly?_append_of_parted
    {spelling front back other : List Char}
    (solid : ∀ c ∈ spelling, isSpace c = false)
    (unread : exactly? spelling (front ++ back) = none)
    (parted : Parted other) :
    exactly? spelling (front ++ other) = none := by
  apply exactly?_append_eq_none solid parted
  intro starts
  have begins : spelling.isPrefixOf (front ++ back) = true :=
    List.isPrefixOf_iff_prefix.2 (starts.trans (List.prefix_append front back))
  rw [exactly?, if_pos begins] at unread
  cases unread

theorem exactly?_eq_some_of_prefix
    {spelling front : List Char} (other : List Char)
    (starts : spelling <+: front) :
    exactly? spelling (front ++ other) = some spelling := by
  obtain ⟨more, rfl⟩ := starts
  rw [List.append_assoc]
  exact exactly?_append_self spelling _

/-- What a terminal reads within the front of a text it reads there whatever follows. -/
theorem lexeme?_append_of_parted
    {terminal : Terminal} {front back other lexeme : List Char}
    (read : lexeme? terminal (front ++ back) = some lexeme)
    (inside : lexeme <+: front)
    (parted : Parted other) :
    lexeme? terminal (front ++ other) = some lexeme := by
  have nonempty : lexeme ≠ [] := (lexeme?_prefix_of_eq_some read).1
  obtain ⟨first, more, rfl⟩ := List.exists_cons_of_ne_nil (inside.ne_nil nonempty)
  cases terminal with
  | ident =>
      simp only [List.cons_append, lexeme?] at read ⊢
      split at read
      · next nameStart =>
          cases read
          have within := inside.length_le
          rw [List.length_cons, List.length_cons] at within
          have same :=
            takeWhile_append_eq_of_parted (fun _ => isNameChar_eq_false_of_isSpace)
              (Nat.le_of_succ_le_succ within) parted
          rw [if_pos nameStart, same]
      · cases read
  | number =>
      simp only [List.cons_append, lexeme?] at read ⊢
      split at read
      · next digit =>
          cases read
          have within := inside.length_le
          rw [List.length_cons, List.length_cons] at within
          have same :=
            takeWhile_append_eq_of_parted (fun _ => isDigit_eq_false_of_isSpace)
              (Nat.le_of_succ_le_succ within) parted
          rw [if_pos digit, same]
      · cases read
  | string =>
      obtain ⟨behind, spelled⟩ := inside
      obtain ⟨content, rfl, textChars⟩ :=
        mem_pattern_string_iff.1 (lexeme?_mem_pattern read)
      have quote : isTextChar '"' = false := by decide
      rw [← spelled]
      simp [lexeme?, List.takeWhile_append_of_pos textChars,
        List.dropWhile_append_of_pos textChars, quote]
  | relation =>
      simp only [lexeme?] at read ⊢
      obtain ⟨before, spelling, after, order, found, silent⟩ :=
        List.findSome?_eq_some_iff.1 read
      obtain ⟨rfl, _⟩ := exactly?_eq_some found
      have silentBefore :
          before.findSome? (exactly? · (first :: more ++ other)) = none := by
        rw [List.findSome?_eq_none_iff]
        intro earlier member
        have known : earlier ∈ relationSpellings := order ▸ List.mem_append_left _ member
        have solid := relation_solid earlier known
        exact exactly?_append_of_parted solid (silent earlier member) parted
      rw [order, List.findSome?_append, silentBefore, Option.none_or, List.findSome?_cons,
        exactly?_eq_some_of_prefix other inside]
  | keyword word =>
      obtain ⟨rfl, _⟩ := exactly?_eq_some read
      exact exactly?_eq_some_of_prefix other inside
  | mark sign =>
      obtain ⟨rfl, _⟩ := exactly?_eq_some read
      exact exactly?_eq_some_of_prefix other inside
  | endOfInput => cases read

theorem eq_string_of_lexeme?
    {terminal : Terminal} {rest lexeme : List Char}
    (read : lexeme? terminal ('"' :: rest) = some lexeme) :
    terminal = .string := by
  cases terminal with
  | keyword word => cases word <;> cases read
  | mark sign => cases sign <;> cases read
  | string => rfl
  | _ => cases read

/-- What a terminal does not read at the start of a text it does not read there whatever follows
the front. Only an opening quote could be closed by what follows. -/
theorem lexeme?_append_eq_none_of_parted
    {terminal : Terminal} {first : Char} {front back other : List Char}
    (unread : lexeme? terminal (first :: front ++ back) = none)
    (noQuote : terminal = .string → first ≠ '"')
    (parted : Parted other) :
    lexeme? terminal (first :: front ++ other) = none := by
  cases terminal with
  | ident =>
      simp only [List.cons_append, lexeme?] at unread ⊢
      split at unread
      · cases unread
      · next notStart => rw [if_neg notStart]
  | number =>
      simp only [List.cons_append, lexeme?] at unread ⊢
      split at unread
      · cases unread
      · next notDigit => rw [if_neg notDigit]
  | string => simp [lexeme?, noQuote rfl]
  | relation =>
      simp only [lexeme?, List.findSome?_eq_none_iff] at unread ⊢
      intro spelling member
      have solid := relation_solid spelling member
      exact exactly?_append_of_parted solid (unread spelling member) parted
  | keyword word => exact exactly?_append_of_parted (keyword_solid word) unread parted
  | mark sign => exact exactly?_append_of_parted (mark_solid sign) unread parted
  | endOfInput => rfl

/-! ## The chosen lexeme -/

/-- The lexeme that is read within the front of a text is read there whatever follows: no terminal
that was silent speaks up, and the one that was chosen reads the same. -/
theorem scan_append_of_parted
    {allowed : Terminal → Bool} {terminal : Terminal} {front back other lexeme : List Char}
    (scanned : scan allowed (front ++ back) = some (terminal, lexeme))
    (inside : lexeme <+: front)
    (parted : Parted other) :
    scan allowed (front ++ other) = some (terminal, lexeme) := by
  obtain ⟨before, tried, after, order, silent, granted, read, rfl⟩ :=
    exists_before_of_scan scanned
  apply scan_eq_some_of_before before after order _ granted
  · exact lexeme?_append_of_parted read inside parted
  · intro earlier member earlierGranted
    have unread := silent earlier member earlierGranted
    have nonempty : lexeme ≠ [] := (lexeme?_prefix_of_eq_some read).1
    obtain ⟨first, more, rfl⟩ := List.exists_cons_of_ne_nil (inside.ne_nil nonempty)
    refine lexeme?_append_eq_none_of_parted unread ?_ parted
    rintro rfl rfl
    -- A text that starts with a quote is read as a string or not at all.
    obtain rfl := eq_string_of_lexeme? read
    rw [unread] at read
    cases read

end Scriptlet.Lexing
