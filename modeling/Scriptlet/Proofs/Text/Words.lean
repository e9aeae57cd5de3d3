import Mathlib.Data.List.DropRight
import Scriptlet.Text.Blank

/-!
# Words of a text

The words of a text are the stretches between its blanks. Trimming a text does not change its words,
and parting the first word of a trimmed text leaves a text of the other words that has no blank at
either end.
-/

namespace Scriptlet.Text

/-! ## Trimmed texts -/

theorem head?_trimBoth (drop : Char → Bool) (text : List Char) :
    (trimBoth drop text).head? = (text.dropWhile drop).head? := by
  have trimmed : trimBoth drop text = (text.dropWhile drop).rdropWhile drop := rfl
  cases kept : text.dropWhile drop with
  | nil => rw [trimmed, kept, List.rdropWhile_nil]
  | cons c rest =>
      have solid : drop c = false := by
        simpa [kept] using List.head?_dropWhile_not drop text
      have present : (c :: rest).rdropWhile drop ≠ [] := by
        intro empty
        have dropped := List.rdropWhile_eq_nil_iff.1 empty c List.mem_cons_self
        rw [solid] at dropped
        cases dropped
      obtain ⟨more, begins⟩ := List.rdropWhile_prefix drop (l := c :: rest)
      rw [trimmed, kept]
      calc
        ((c :: rest).rdropWhile drop).head?
        _ = ((c :: rest).rdropWhile drop ++ more).head? :=
          (List.head?_append_of_ne_nil _ present).symm
        _ = (c :: rest).head? := by rw [begins]

theorem head?_toList_trim (text : String) :
    (trim text).toList.head? = (text.toList.dropWhile isBlank).head? := by
  rw [trim, String.toList_ofList, head?_trimBoth]

/-! ## Words -/

/-- The words of a text, in order. -/
def words (text : List Char) : List (List Char) :=
  (text.splitOnP isBlank).filter (· != [])

/-! ## Blanks around and between words -/

theorem words_append_cons
    {blank : Char} (front back : List Char)
    (isBlank : isBlank blank = true) :
    words (front ++ blank :: back) = words front ++ words back := by
  rw [words, List.splitOnP_append_cons front back isBlank, List.filter_append]
  rfl

theorem words_cons_blank
    {blank : Char} (text : List Char)
    (isBlank : isBlank blank = true) :
    words (blank :: text) = words text := by
  have parted := words_append_cons [] text isBlank
  simpa [words] using parted

/-- A text without blanks is one word. -/
theorem words_of_solid
    {text : List Char}
    (nonempty : text ≠ [])
    (solid : ∀ c ∈ text, isBlank c = false) :
    words text = [text] := by
  rw [words, List.splitOnP_eq_singleton solid]
  simp [nonempty]

theorem words_of_blank
    {text : List Char}
    (blank : ∀ c ∈ text, isBlank c = true) :
    words text = [] := by
  induction text with
  | nil => rfl
  | cons c rest inductionHypothesis =>
      obtain ⟨firstBlank, restBlank⟩ := List.forall_mem_cons.1 blank
      rw [words_cons_blank rest firstBlank]
      exact inductionHypothesis restBlank

theorem words_dropWhile (text : List Char) : words (text.dropWhile isBlank) = words text := by
  induction text with
  | nil => rfl
  | cons c rest inductionHypothesis =>
      by_cases blank : isBlank c = true
      · rw [List.dropWhile_cons_of_pos blank, words_cons_blank rest blank, inductionHypothesis]
      · rw [List.dropWhile_cons_of_neg blank]

theorem words_append_blank
    (text : List Char) {blanks : List Char}
    (blank : ∀ c ∈ blanks, isBlank c = true) :
    words (text ++ blanks) = words text := by
  cases blanks with
  | nil => rw [List.append_nil]
  | cons c rest =>
      obtain ⟨firstBlank, restBlank⟩ := List.forall_mem_cons.1 blank
      rw [words_append_cons text rest firstBlank, words_of_blank restBlank, List.append_nil]

theorem words_trimBoth (text : List Char) : words (trimBoth isBlank text) = words text := by
  have apart := List.rdropWhile_append_rtakeWhile (p := isBlank) (l := text.dropWhile isBlank)
  calc
    words (trimBoth isBlank text)
    _ = words ((text.dropWhile isBlank).rdropWhile isBlank ++
          (text.dropWhile isBlank).rtakeWhile isBlank) :=
      (words_append_blank _ fun _ => List.mem_rtakeWhile_imp).symm
    _ = words text := by rw [apart, words_dropWhile]

/-! ## The first word -/

/-- A text that starts with no blank is its first word and the words behind the blanks that end
it. -/
theorem words_cons_solid
    {first : Char} (rest : List Char)
    (solid : isBlank first = false) :
    words (first :: rest) =
      (first :: rest).takeWhile (!isBlank ·) ::
        words (((first :: rest).dropWhile (!isBlank ·)).dropWhile isBlank) := by
  have nonempty : (first :: rest).takeWhile (!isBlank ·) ≠ [] := by
    rw [List.takeWhile_cons_of_pos (by simp [solid])]
    exact List.cons_ne_nil _ _
  have oneWord : words ((first :: rest).takeWhile (!isBlank ·)) = [_] :=
    words_of_solid nonempty fun c member => by simpa using List.mem_takeWhile_imp member
  have apart := List.takeWhile_append_dropWhile (p := (!isBlank ·)) (l := first :: rest)
  rw [words_dropWhile]
  cases behind : (first :: rest).dropWhile (!isBlank ·) with
  | nil =>
      rw [behind, List.append_nil] at apart
      rw [apart] at oneWord ⊢
      exact oneWord
  | cons c others =>
      have isBlank : isBlank c = true := by
        simpa [behind] using List.head?_dropWhile_not (!isBlank ·) (first :: rest)
      rw [behind] at apart
      calc
        words (first :: rest)
        _ = words ((first :: rest).takeWhile _) ++ words others := by
          rw [← words_append_cons _ _ isBlank, apart]
        _ = (first :: rest).takeWhile _ :: words (c :: others) := by
          rw [oneWord, words_cons_blank others isBlank, List.singleton_append]

theorem words_ne_nil
    {text : List Char} {c : Char}
    (member : c ∈ text)
    (solid : isBlank c = false) :
    words text ≠ [] := by
  induction text with
  | nil => cases member
  | cons first rest inductionHypothesis =>
      cases firstBlank : isBlank first with
      | false =>
          rw [words_cons_solid rest firstBlank]
          exact List.cons_ne_nil _ _
      | true =>
          rw [words_cons_blank rest firstBlank]
          rcases List.mem_cons.1 member with rfl | later
          · rw [solid] at firstBlank
            cases firstBlank
          · exact inductionHypothesis later

/-! ## Texts without blanks at their ends -/

/-- A text that neither starts nor ends with a blank. -/
structure Tight (text : List Char) : Prop where
  head : ∀ c, text.head? = some c → isBlank c = false
  last : ∀ c, text.getLast? = some c → isBlank c = false

/-- What follows the first word of a trimmed text. -/
theorem tight_behind_word (text : List Char) :
    Tight (((trimBoth isBlank text).dropWhile (!isBlank ·)).dropWhile isBlank) where
  head c starts := by
    simpa [starts] using
      List.head?_dropWhile_not isBlank ((trimBoth isBlank text).dropWhile (!isBlank ·))
  last c ends := by
    have suffix :
        ((trimBoth isBlank text).dropWhile (!isBlank ·)).dropWhile isBlank <:+
          trimBoth isBlank text :=
      (List.dropWhile_suffix _).trans (List.dropWhile_suffix _)
    obtain ⟨front, apart⟩ := suffix
    have endsWhole : (trimBoth isBlank text).getLast? = some c := by
      rw [← apart, List.getLast?_append, ends, Option.some_or]
    rw [trimBoth, List.getLast?_reverse] at endsWhole
    simpa [endsWhole] using
      List.head?_dropWhile_not isBlank (text.dropWhile isBlank).reverse

/-- A blank inside such a text parts two words. -/
theorem Tight.two_le_length_words
    {text : List Char} {c : Char}
    (tight : Tight text)
    (member : c ∈ text)
    (blank : isBlank c = true) :
    2 ≤ (words text).length := by
  obtain ⟨front, back, rfl⟩ := List.append_of_mem member
  have frontWords : words front ≠ [] := by
    cases front with
    | nil =>
        have solid := tight.head c rfl
        rw [blank] at solid
        cases solid
    | cons first rest => exact words_ne_nil List.mem_cons_self (tight.head first rfl)
  have backWords : words back ≠ [] := by
    rcases List.eq_nil_or_concat' back with rfl | ⟨rest, last, rfl⟩
    · have solid := tight.last c (by simp)
      rw [blank] at solid
      cases solid
    · have ends : (front ++ c :: (rest ++ [last])).getLast? = some last := by
        rw [← List.cons_append, ← List.append_assoc, List.getLast?_concat]
      exact words_ne_nil (by simp) (tight.last last ends)
  have frontLength := List.length_pos_iff.2 frontWords
  have backLength := List.length_pos_iff.2 backWords
  rw [words_append_cons front back blank, List.length_append]
  omega

/-! ## Parting a trimmed text -/

theorem toList_partWord_trim (text : String) :
    (partWord (trim text)).1.toList = (trimBoth isBlank text.toList).takeWhile (!isBlank ·) ∧
      (partWord (trim text)).2.toList =
        ((trimBoth isBlank text.toList).dropWhile (!isBlank ·)).dropWhile isBlank := by
  simp only [partWord, trim, String.toList_ofList, and_self]

theorem tight_snd_partWord (text : String) : Tight (partWord (trim text)).2.toList := by
  rw [(toList_partWord_trim text).2]
  exact tight_behind_word text.toList

/-- The words of a text are the first word of the trimmed text and the words of what follows it,
unless there are none. -/
theorem words_eq_partWord
    {text : String}
    (nonempty : trim text ≠ "") :
    words text.toList =
      (partWord (trim text)).1.toList :: words (partWord (trim text)).2.toList := by
  obtain ⟨isFirst, isRest⟩ := toList_partWord_trim text
  rw [isFirst, isRest, ← words_trimBoth]
  cases trimmed : trimBoth isBlank text.toList with
  | nil =>
      rw [trim, trimmed] at nonempty
      exact absurd rfl nonempty
  | cons first rest =>
      have starts := head?_trimBoth isBlank text.toList
      rw [trimmed] at starts
      have solid : isBlank first = false := by
        simpa [← starts] using List.head?_dropWhile_not isBlank text.toList
      exact words_cons_solid rest solid

end Scriptlet.Text
