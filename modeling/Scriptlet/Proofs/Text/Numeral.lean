import Mathlib.Data.List.TakeWhile
import Scriptlet.Text.Numeral

/-!
# Reading plain digits

A numeral made of ASCII digits alone is read as the number they denote, unless it is too long.
-/

namespace Scriptlet.Text

theorem toNat_bounds_of_isDigit
    {c : Char}
    (digit : c.isDigit = true) :
    48 ≤ c.toNat ∧ c.toNat ≤ 57 :=
  Char.isDigit_iff_toNat.1 digit

theorem isDigit_of_mem_repr
    {number : Nat} {c : Char}
    (member : c ∈ number.repr.toList) :
    c.isDigit = true := by
  rw [Nat.toList_repr] at member
  exact Nat.isDigit_of_mem_toDigits (by decide) (by decide) member

theorem decimalDigit?_of_isDigit
    {c : Char}
    (digit : c.isDigit = true) :
    decimalDigit? c = some (c.toNat - 48) := by
  obtain ⟨lower, upper⟩ := toNat_bounds_of_isDigit digit
  have inFirstRun : (decide (48 ≤ c.toNat) && decide (c.toNat < 48 + 10)) = true := by
    simp only [Bool.and_eq_true, decide_eq_true_eq]
    omega
  simp [decimalDigit?, zeroDigits, inFirstRun]

theorem isBlank_eq_false_of_isDigit
    {c : Char}
    (digit : c.isDigit = true) :
    isBlank c = false := by
  obtain ⟨lower, upper⟩ := toNat_bounds_of_isDigit digit
  simp only [isBlank, Bool.or_eq_false_iff, Bool.and_eq_false_iff, decide_eq_false_iff_not,
    beq_eq_false_iff_ne]
  omega

namespace Numeral

theorem isMargin_eq_false_of_isDigit
    {c : Char}
    (digit : c.isDigit = true) :
    isMargin c = false := by
  simp [isMargin, isBlank_eq_false_of_isDigit digit]

theorem partSign_of_isDigit
    {c : Char} {rest : List Char}
    (digit : c.isDigit = true) :
    partSign (c :: rest) = (false, c :: rest) := by
  unfold partSign
  split
  · next same =>
      cases same
      exact absurd digit (by decide)
  · next same =>
      cases same
      exact absurd digit (by decide)
  · rfl

theorem isRunChar_of_isDigit
    {c : Char}
    (digit : c.isDigit = true) :
    isRunChar c = true := by
  simp [isRunChar, isDecimalDigit, decimalDigit?_of_isDigit digit]

theorem wellSpaced_of_digits
    {digits : List Char}
    (nonempty : digits ≠ [])
    (allDigits : ∀ c ∈ digits, c.isDigit = true) :
    wellSpaced digits = true := by
  have notUnderscore : ∀ c ∈ digits, c ≠ '_' := by
    rintro c member rfl
    exact absurd (allDigits '_' member) (by decide)
  clear allDigits
  induction digits with
  | nil => exact absurd rfl nonempty
  | cons first rest inductionHypothesis =>
      obtain ⟨firstNot, restNot⟩ := List.forall_mem_cons.1 notUnderscore
      cases rest with
      | nil => simp [wellSpaced, firstNot]
      | cons second rest =>
          have secondNot : second ≠ '_' := restNot second (List.mem_cons_self ..)
          have restSpaced := inductionHypothesis (List.cons_ne_nil _ _) restNot
          simp [wellSpaced, firstNot, secondNot, restSpaced]

theorem length_digitValues_of_digits
    {digits : List Char}
    (allDigits : ∀ c ∈ digits, c.isDigit = true) :
    (digitValues digits).length = digits.length := by
  induction digits with
  | nil => rfl
  | cons first rest inductionHypothesis =>
      obtain ⟨firstDigit, restDigits⟩ := List.forall_mem_cons.1 allDigits
      have restLength := inductionHypothesis restDigits
      unfold digitValues at restLength ⊢
      simp [decimalDigit?_of_isDigit firstDigit, restLength]

/-- The reading of a nonempty sequence of ASCII digits. -/
theorem read_of_digits
    {digits : List Char}
    (nonempty : digits ≠ [])
    (allDigits : ∀ c ∈ digits, c.isDigit = true) :
    read (String.ofList digits) =
      if digitLimit < digits.length then .error (.tooManyDigits digits.length)
      else .ok (ofDigits (digitValues digits)) := by
  obtain ⟨first, rest, rfl⟩ := List.exists_cons_of_ne_nil nonempty
  have firstDigit : first.isDigit = true := allDigits first (List.mem_cons_self ..)
  have noMargin : (first :: rest).dropWhile isMargin = first :: rest :=
    List.dropWhile_cons_of_neg (by simp [isMargin_eq_false_of_isDigit firstDigit])
  have allRun : ∀ c ∈ first :: rest, isRunChar c = true :=
    fun c member => isRunChar_of_isDigit (allDigits c member)
  have wholeRun : (first :: rest).takeWhile isRunChar = first :: rest :=
    List.takeWhile_eq_self_iff.2 allRun
  have noRest : (first :: rest).dropWhile isRunChar = [] :=
    List.dropWhile_eq_nil_iff.2 allRun
  unfold read
  rw [String.toList_ofList, noMargin, partSign_of_isDigit firstDigit]
  simp only [wholeRun, noRest, wellSpaced_of_digits nonempty allDigits,
    length_digitValues_of_digits allDigits]
  simp

end Numeral

end Scriptlet.Text
