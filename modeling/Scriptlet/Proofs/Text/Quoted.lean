import Mathlib.Algebra.Group.Nat.Defs
import Mathlib.Data.List.Basic
import Mathlib.Tactic.SplitIfs
import Scriptlet.Text.Quoted

/-!
# Reading quoted text back

A quoted text determines the text that it shows. Between its delimiters every character has a
written form that can be read back whatever follows it, because a backslash always starts an escape
and numeric escapes have a fixed number of digits. No written form holds a line break.
-/

namespace Scriptlet.Text

/-! ## Codes -/

/-- A code can be read word by word if the end of a word never depends on what follows it. -/
theorem flatMap_inj_of_prefixFree
    {α β : Type} {code : α → List β} {holds : α → Prop} {lefts rights : List α}
    (nonempty : ∀ item, code item ≠ [])
    (prefixFree :
      ∀ left right rest more, holds left → holds right →
        code left ++ rest = code right ++ more → left = right ∧ rest = more)
    (leftsHold : ∀ item ∈ lefts, holds item)
    (rightsHold : ∀ item ∈ rights, holds item)
    (same : lefts.flatMap code = rights.flatMap code) :
    lefts = rights := by
  induction lefts generalizing rights with
  | nil =>
      cases rights with
      | nil => rfl
      | cons right rights =>
          rw [List.flatMap_nil, List.flatMap_cons] at same
          exact absurd (List.append_eq_nil_iff.1 same.symm).1 (nonempty right)
  | cons left lefts inductionHypothesis =>
      cases rights with
      | nil =>
          rw [List.flatMap_nil, List.flatMap_cons] at same
          exact absurd (List.append_eq_nil_iff.1 same).1 (nonempty left)
      | cons right rights =>
          obtain ⟨leftHolds, leftsHold⟩ := List.forall_mem_cons.1 leftsHold
          obtain ⟨rightHolds, rightsHold⟩ := List.forall_mem_cons.1 rightsHold
          rw [List.flatMap_cons, List.flatMap_cons] at same
          obtain ⟨sameFirst, sameRest⟩ := prefixFree _ _ _ _ leftHolds rightHolds same
          rw [sameFirst, inductionHypothesis leftsHold rightsHold sameRest]

/-! ## Hexadecimal digits -/

def hexValue (digit : Char) : Nat :=
  if digit.toNat < 0x3a then digit.toNat - 0x30 else digit.toNat - 0x57

/-- The number that hexadecimal digits write, the most significant first. -/
def readHex (digits : List Char) : Nat :=
  digits.foldl (fun value digit => 16 * value + hexValue digit) 0

theorem hexValue_hexDigit : ∀ value < 16, hexValue (hexDigit value) = value := by
  decide

theorem length_hexDigits (width value : Nat) : (hexDigits width value).length = width := by
  induction width generalizing value with
  | zero => rfl
  | succ width inductionHypothesis =>
      rw [hexDigits, List.length_append, inductionHypothesis, List.length_singleton]

/-- Digits of a fixed width write a number modulo a power of sixteen. -/
theorem readHex_hexDigits (width value : Nat) :
    readHex (hexDigits width value) = value % 16 ^ width := by
  induction width generalizing value with
  | zero => rw [Nat.pow_zero, Nat.mod_one, hexDigits, readHex, List.foldl_nil]
  | succ width inductionHypothesis =>
      have lastDigit := hexValue_hexDigit (value % 16) (Nat.mod_lt value (by decide))
      have otherDigits := inductionHypothesis (value / 16)
      rw [readHex] at otherDigits
      rw [hexDigits, readHex, List.foldl_append, otherDigits, List.foldl_cons, List.foldl_nil,
        lastDigit, Nat.pow_succ', Nat.mod_mul, Nat.add_comm]

/-! ## Escapes -/

/-- Reads a number of hexadecimal digits as one character. -/
def readPoint (width : Nat) (text : List Char) : Char × List Char :=
  (Char.ofNat (readHex (text.take width)), text.drop width)

/-- Reads what follows a backslash, which stands for itself unless it marks an escape. -/
def readEscape (mark : Char) (text : List Char) : Char × List Char :=
  if mark = 'n' then ('\n', text)
  else if mark = 'r' then ('\r', text)
  else if mark = 't' then ('\t', text)
  else if mark = 'x' then readPoint 2 text
  else if mark = 'u' then readPoint 4 text
  else if mark = 'U' then readPoint 8 text
  else (mark, text)

/-- Reads one character of a quoted text. -/
def readQuoted : List Char → Option (Char × List Char)
  | '\\' :: mark :: text => some (readEscape mark text)
  | c :: text => some (c, text)
  | [] => none

theorem readPoint_hexDigits
    {width : Nat} {c : Char} (rest : List Char)
    (fits : c.toNat < 16 ^ width) :
    readPoint width (hexDigits width c.toNat ++ rest) = (c, rest) := by
  have digits := length_hexDigits width c.toNat
  rw [readPoint, List.take_left' digits, List.drop_left' digits, readHex_hexDigits,
    Nat.mod_eq_of_lt fits, Char.ofNat_toNat]

theorem readQuoted_escapePoint (c : Char) (rest : List Char) :
    readQuoted (escapePoint c ++ rest) = some (c, rest) := by
  have small : c.toNat < 0x110000 := by
    have valid : c.toNat.isValidChar := c.valid
    unfold Nat.isValidChar at valid
    omega
  unfold escapePoint
  split_ifs with narrow middling
  · exact congrArg some (readPoint_hexDigits rest (by omega))
  · exact congrArg some (readPoint_hexDigits rest (by omega))
  · exact congrArg some (readPoint_hexDigits rest (by omega))

theorem readQuoted_quoteChar
    {delimiter : Char} (c : Char) (rest : List Char)
    (isDelimiter : delimiter ∈ ['\'', '"']) :
    readQuoted (quoteChar delimiter c ++ rest) = some (c, rest) := by
  simp only [quoteChar, Bool.or_eq_true, decide_eq_true_eq]
  split_ifs with escaped isBreak isReturn isTab
  · have choices : c = '\\' ∨ c = '\'' ∨ c = '"' := by
      rcases escaped with rfl | rfl
      · exact .inl rfl
      · simpa using Or.inr isDelimiter
    rcases choices with rfl | rfl | rfl <;> rfl
  · rw [isBreak]
    rfl
  · rw [isReturn]
    rfl
  · rw [isTab]
    rfl
  · have notBackslash : c ≠ '\\' := fun isBackslash => escaped (.inl isBackslash)
    simp [readQuoted, notBackslash]
  · exact readQuoted_escapePoint c rest

/-! ## Quoted texts -/

theorem delimiterFor_mem (text : List Char) : delimiterFor text ∈ ['\'', '"'] := by
  unfold delimiterFor
  split
  · decide
  · decide

theorem quoteChars_injective : Function.Injective quoteChars := by
  intro left right same
  simp only [quoteChars, List.cons_append, List.cons.injEq] at same
  obtain ⟨sameDelimiter, sameInside⟩ := same
  rw [sameDelimiter] at sameInside
  have isDelimiter := delimiterFor_mem right
  have readBack (c : Char) (rest : List Char) :=
    readQuoted_quoteChar c rest isDelimiter
  have nonempty (c : Char) : quoteChar (delimiterFor right) c ≠ [] := by
    intro empty
    have read := readBack c []
    rw [empty] at read
    cases read
  refine flatMap_inj_of_prefixFree nonempty (fun first second rest more _ _ agree => ?_)
    (fun _ _ => trivial) (fun _ _ => trivial) (List.append_cancel_right sameInside)
  have read := readBack first rest
  rw [agree, readBack second more] at read
  cases read
  exact ⟨rfl, rfl⟩

theorem quote_injective : Function.Injective quote := by
  intro left right same
  have sameQuoted : quoteChars left.toList = quoteChars right.toList :=
    String.ofList_injective same
  exact String.toList_injective (quoteChars_injective sameQuoted)

/-! ## Line breaks -/

theorem hexDigit_ne_newline : ∀ value < 16, hexDigit value ≠ '\n' := by
  decide

theorem newline_notMem_hexDigits (width value : Nat) : '\n' ∉ hexDigits width value := by
  induction width generalizing value with
  | zero => exact List.not_mem_nil
  | succ width inductionHypothesis =>
      have lastDigit := hexDigit_ne_newline (value % 16) (Nat.mod_lt value (by decide))
      simp [hexDigits, inductionHypothesis, lastDigit.symm]

theorem newline_ne_delimiter
    {delimiter : Char}
    (isDelimiter : delimiter ∈ ['\'', '"']) :
    '\n' ≠ delimiter := by
  rintro rfl
  exact absurd isDelimiter (by decide)

theorem newline_notMem_quoteChar
    {delimiter : Char} (c : Char)
    (isDelimiter : delimiter ∈ ['\'', '"']) :
    '\n' ∉ quoteChar delimiter c := by
  simp only [quoteChar, escapePoint, Bool.or_eq_true, decide_eq_true_eq]
  split_ifs with escaped isBreak
  · rcases escaped with rfl | rfl
    · decide
    · simp [newline_ne_delimiter isDelimiter]
  · decide
  · decide
  · decide
  · simp [Ne.symm isBreak]
  all_goals simp [newline_notMem_hexDigits]

theorem newline_notMem_quote (text : String) : '\n' ∉ (quote text).toList := by
  have isDelimiter := delimiterFor_mem text.toList
  have inside : '\n' ∉ text.toList.flatMap (quoteChar (delimiterFor text.toList)) := by
    simp [newline_notMem_quoteChar _ isDelimiter]
  rw [quote, String.toList_ofList, quoteChars]
  simp [newline_ne_delimiter isDelimiter, inside]

end Scriptlet.Text
