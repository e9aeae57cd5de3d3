import Mathlib.Data.Nat.Digits.Defs
import Scriptlet.Proofs.Text.Numeral

/-!
# Decimal texts

What it means for a text to write an integer in decimal, said without the reader: margins around
an optional sign and a run of digits in which single underscores may part neighbours. The reader
gives such a text its integer as long as the run has at most 4300 digits.
-/

namespace Scriptlet.Text.Numeral

/-! ## Runs of digits -/

/-- A run of digits with its digit values, most significant first. -/
inductive Digits : List Char → List Nat → Prop
  | last {c : Char} {value : Nat} :
      decimalDigit? c = some value → Digits [c] [value]
  | next {c : Char} {value : Nat} {run : List Char} {values : List Nat} :
      decimalDigit? c = some value → Digits run values → Digits (c :: run) (value :: values)
  | parted {c : Char} {value : Nat} {run : List Char} {values : List Nat} :
      decimalDigit? c = some value → Digits run values →
        Digits (c :: '_' :: run) (value :: values)

/-- The signs that may stand before a run, and what each multiplies the number by. -/
def signs : List (List Char × Int) :=
  [([], 1), (['+'], 1), (['-'], -1)]

theorem signs_cases
    {sign : List Char} {unit : Int}
    (member : (sign, unit) ∈ signs) :
    (sign = [] ∧ unit = 1) ∨ (sign = ['+'] ∧ unit = 1) ∨ (sign = ['-'] ∧ unit = -1) := by
  simpa [signs] using member

/-- A text that writes a number with at most as many digits as are read. -/
def Denotes (text : List Char) (number : Int) : Prop :=
  ∃ left sign unit run values right,
    text = left ++ (sign ++ (run ++ right)) ∧
      (∀ c ∈ left, isMargin c = true) ∧
      (∀ c ∈ right, isMargin c = true) ∧
      (sign, unit) ∈ signs ∧
      Digits run values ∧
      values.length ≤ digitLimit ∧
      number = unit * (Nat.ofDigits 10 values.reverse : Nat)

/-! ## Characters of margins and runs -/

/-- The code points of the blanks that may stand around a numeral. -/
def marginPoints : List Nat :=
  [0x09, 0x0a, 0x0b, 0x0c, 0x0d, 0x20, 0x85, 0xa0, 0x1680, 0x2000, 0x2001, 0x2002, 0x2003, 0x2004,
    0x2005, 0x2006, 0x2007, 0x2008, 0x2009, 0x200a, 0x2028, 0x2029, 0x202f, 0x205f, 0x3000]

theorem mem_marginPoints_of_isMargin
    {c : Char}
    (margin : isMargin c = true) :
    c.toNat ∈ marginPoints := by
  simp only [isMargin, isBlank, Bool.and_eq_true, Bool.or_eq_true, Bool.not_eq_true',
    Bool.and_eq_false_iff, decide_eq_true_eq, decide_eq_false_iff_not, beq_iff_eq] at margin
  simp only [marginPoints, List.mem_cons, List.not_mem_nil, or_false]
  omega

theorem decimalDigit?_eq_none_of_isMargin
    {c : Char}
    (margin : isMargin c = true) :
    decimalDigit? c = none := by
  have unlisted :
      ∀ point ∈ marginPoints, ∀ first ∈ zeroDigits, ¬ (first ≤ point ∧ point < first + 10) := by
    decide
  have absent :
      zeroDigits.find? (fun first => first ≤ c.toNat && c.toNat < first + 10) = none := by
    apply List.find?_eq_none.2
    intro first member
    have outside := unlisted _ (mem_marginPoints_of_isMargin margin) first member
    simpa using outside
  simp [decimalDigit?, absent]

theorem isRunChar_eq_false_of_isMargin
    {c : Char}
    (margin : isMargin c = true) :
    isRunChar c = false := by
  have notDigit := decimalDigit?_eq_none_of_isMargin margin
  have notUnderscore : c ≠ '_' := by
    rintro rfl
    exact absurd margin (by decide)
  simp [isRunChar, isDecimalDigit, notDigit, notUnderscore]

theorem isMargin_eq_false_of_decimalDigit?
    {c : Char} {value : Nat}
    (digit : decimalDigit? c = some value) :
    isMargin c = false := by
  cases margin : isMargin c with
  | false => rfl
  | true =>
      rw [decimalDigit?_eq_none_of_isMargin margin] at digit
      cases digit

theorem ne_of_decimalDigit?
    {c other : Char} {value : Nat}
    (digit : decimalDigit? c = some value)
    (noDigit : decimalDigit? other = none) :
    c ≠ other := by
  rintro rfl
  rw [noDigit] at digit
  cases digit

/-! ## Reading a run -/

namespace Digits

variable {run : List Char} {values : List Nat}

theorem exists_first (digits : Digits run values) :
    ∃ c rest value, run = c :: rest ∧ decimalDigit? c = some value := by
  cases digits with
  | last digit => exact ⟨_, _, _, rfl, digit⟩
  | next digit _ => exact ⟨_, _, _, rfl, digit⟩
  | parted digit _ => exact ⟨_, _, _, rfl, digit⟩

theorem isRunChar (digits : Digits run values) : ∀ c ∈ run, isRunChar c = true := by
  have ofDigit :
      ∀ {c : Char} {value : Nat}, decimalDigit? c = some value → Numeral.isRunChar c = true := by
    intro c value digit
    simp [Numeral.isRunChar, isDecimalDigit, digit]
  induction digits with
  | last digit => simpa using ofDigit digit
  | next digit _ inductionHypothesis =>
      exact List.forall_mem_cons.2 ⟨ofDigit digit, inductionHypothesis⟩
  | parted digit _ inductionHypothesis =>
      have underscore : Numeral.isRunChar '_' = true := by decide
      exact List.forall_mem_cons.2
        ⟨ofDigit digit, List.forall_mem_cons.2 ⟨underscore, inductionHypothesis⟩⟩

theorem digitValues_eq (digits : Digits run values) : digitValues run = values := by
  have underscore : decimalDigit? '_' = none := by decide
  induction digits with
  | last digit => simp [digitValues, digit]
  | next digit _ inductionHypothesis =>
      simp only [digitValues] at inductionHypothesis
      simp [digitValues, digit, inductionHypothesis]
  | parted digit _ inductionHypothesis =>
      simp only [digitValues] at inductionHypothesis
      simp [digitValues, digit, underscore, inductionHypothesis]

theorem wellSpaced (digits : Digits run values) : wellSpaced run = true := by
  have underscore : decimalDigit? '_' = none := by decide
  induction digits with
  | last digit => simpa [Numeral.wellSpaced] using ne_of_decimalDigit? digit underscore
  | next digit rest inductionHypothesis =>
      have notUnderscore := ne_of_decimalDigit? digit underscore
      obtain ⟨second, more, _, rfl, secondDigit⟩ := rest.exists_first
      have secondNot := ne_of_decimalDigit? secondDigit underscore
      simp [Numeral.wellSpaced, notUnderscore, secondNot, inductionHypothesis]
  | parted digit _ inductionHypothesis =>
      have notUnderscore := ne_of_decimalDigit? digit underscore
      simp [Numeral.wellSpaced, notUnderscore, inductionHypothesis]

end Digits

/-! ## Reading a text -/

theorem partSign_append
    {sign rest : List Char} {unit : Int}
    (member : (sign, unit) ∈ signs)
    (unsigned : ∀ c, rest.head? = some c → (decimalDigit? c).isSome = true) :
    partSign (sign ++ rest) = (decide (unit = -1), rest) := by
  have noPlus : decimalDigit? '+' = none := by decide
  have noMinus : decimalDigit? '-' = none := by decide
  rcases signs_cases member with ⟨rfl, rfl⟩ | ⟨rfl, rfl⟩ | ⟨rfl, rfl⟩
  · rw [List.nil_append]
    unfold partSign
    split
    · have impossible := unsigned _ rfl
      rw [noMinus] at impossible
      cases impossible
    · have impossible := unsigned _ rfl
      rw [noPlus] at impossible
      cases impossible
    · rfl
  · rfl
  · rfl

theorem ofDigits_eq (values : List Nat) : ofDigits values = Nat.ofDigits 10 values.reverse := by
  rw [Nat.ofDigits_eq_foldr, List.foldr_reverse, ofDigits]
  congr 1
  funext number digit
  exact Nat.add_comm _ _

/-- A text that writes a number is read as that number. -/
theorem read_of_denotes
    {text : String} {number : Int}
    (denotes : Denotes text.toList number) :
    read text = .ok number := by
  obtain ⟨left, sign, unit, run, values, right, spelled, leftMargin, rightMargin, signed, digits,
    bounded, rfl⟩ := denotes
  obtain ⟨first, more, value, rfl, firstDigit⟩ := digits.exists_first
  have noMargin : (sign ++ (first :: more ++ right)).dropWhile isMargin =
      sign ++ (first :: more ++ right) := by
    have firstNoMargin := isMargin_eq_false_of_decimalDigit? firstDigit
    have noSign : isMargin '+' = false ∧ isMargin '-' = false := by decide
    rcases signs_cases signed with ⟨rfl, rfl⟩ | ⟨rfl, rfl⟩ | ⟨rfl, rfl⟩
    · simp [firstNoMargin]
    · simp [noSign.1]
    · simp [noSign.2]
  have stripped : text.toList.dropWhile isMargin = sign ++ (first :: more ++ right) := by
    rw [spelled, List.dropWhile_append_of_pos leftMargin, noMargin]
  have parted :
      partSign (sign ++ (first :: more ++ right)) =
        (decide (unit = -1), first :: more ++ right) :=
    partSign_append signed (by simp [firstDigit])
  have rightStops : right.takeWhile isRunChar = [] ∧ right.dropWhile isRunChar = right := by
    cases right with
    | nil => simp
    | cons c rest =>
        have stops := isRunChar_eq_false_of_isMargin (rightMargin c (by simp))
        simp [stops]
  have taken : (first :: more ++ right).takeWhile isRunChar = first :: more := by
    rw [List.takeWhile_append_of_pos digits.isRunChar, rightStops.1, List.append_nil]
  have dropped : (first :: more ++ right).dropWhile isRunChar = right := by
    rw [List.dropWhile_append_of_pos digits.isRunChar, rightStops.2]
  have allMargin : right.all isMargin = true := List.all_eq_true.2 rightMargin
  have withinLimit : ¬ digitLimit < values.length := Nat.not_lt.2 bounded
  unfold read
  rw [stripped, parted]
  simp only [taken, dropped, digits.wellSpaced, digits.digitValues_eq, allMargin, ofDigits_eq,
    withinLimit, Bool.not_true, Bool.false_eq_true, if_false]
  rcases signs_cases signed with ⟨rfl, rfl⟩ | ⟨rfl, rfl⟩ | ⟨rfl, rfl⟩
  · simp
  · simp
  · simp

/-! ## ASCII digits -/

theorem digits_of_isDigit
    {run : List Char}
    (nonempty : run ≠ [])
    (ascii : ∀ c ∈ run, c.isDigit = true) :
    Digits run (run.map fun c => c.toNat - 48) := by
  induction run with
  | nil => exact absurd rfl nonempty
  | cons first rest inductionHypothesis =>
      obtain ⟨firstDigit, restDigits⟩ := List.forall_mem_cons.1 ascii
      have firstValue := decimalDigit?_of_isDigit firstDigit
      by_cases single : rest = []
      · subst single
        exact .last firstValue
      · exact .next firstValue (inductionHypothesis single restDigits)

/-- Plain ASCII digits write the number that the standard library gives them. -/
theorem denotes_of_isDigit
    {run : List Char}
    (nonempty : run ≠ [])
    (ascii : ∀ c ∈ run, c.isDigit = true)
    (bounded : run.length ≤ digitLimit) :
    Denotes run (Nat.ofDigitChars 10 run 0) := by
  have digits := digits_of_isDigit nonempty ascii
  have unsigned : (([] : List Char), (1 : Int)) ∈ signs := by decide
  have sameValue :
      Nat.ofDigitChars 10 run 0 = Nat.ofDigits 10 (run.map fun c => c.toNat - 48).reverse := by
    rw [← ofDigits_eq, ofDigits, List.foldl_map]
    rfl
  refine ⟨[], [], 1, run, _, [], by simp, by simp, by simp, unsigned, digits, ?_, ?_⟩
  · simpa using bounded
  · rw [Int.one_mul, sameValue]

theorem denotes_repr
    {number : Nat}
    (bounded : number.repr.length ≤ digitLimit) :
    Denotes number.repr.toList number := by
  have ascii : ∀ c ∈ Nat.toDigits 10 number, c.isDigit = true :=
    fun c member => Nat.isDigit_of_mem_toDigits (by decide) (by decide) member
  have sameLength : (Nat.toDigits 10 number).length = number.repr.length := by
    rw [← Nat.toList_repr, String.length_toList]
  have denotes := denotes_of_isDigit Nat.toDigits_ne_nil ascii (sameLength ▸ bounded)
  rw [Nat.ofDigitChars_ten_toDigits] at denotes
  rw [Nat.toList_repr]
  exact denotes

end Scriptlet.Text.Numeral
