import Scriptlet.Text.Blank
import Scriptlet.Text.Digit
import Scriptlet.Text.Quoted

/-!
# Numerals

Reading an integer from decimal text.

A numeral is one optional sign and decimal digits of any script, with single underscores allowed
between digits and blanks allowed around the whole. Numerals of more than 4300 digits are refused
before anything that follows the digits is looked at.
-/

namespace Scriptlet.Text

/-- Why a text is not read as an integer. -/
inductive NumeralFault where
  | malformed (text : String)
  | tooManyDigits (count : Nat)
  deriving DecidableEq, Repr

namespace NumeralFault

/-- The wording of a refused numeral; at most 200 characters of the quoted text are shown. -/
def message : NumeralFault → String
  | malformed text =>
      "invalid literal for int() with base 10: " ++
        String.ofList ((quoteChars text.toList).take 200)
  | tooManyDigits count =>
      "Exceeds the limit (4300 digits) for integer string conversion: value has " ++
        toString count ++ " digits; use sys.set_int_max_str_digits() to increase the limit"

end NumeralFault

/-- The wording that refuses to write a number of too many digits. -/
def unwritableMessage : String :=
  "Exceeds the limit (4300 digits) for integer string conversion; " ++
    "use sys.set_int_max_str_digits() to increase the limit"

namespace Numeral

/-- The greatest number of digits that is read or written. -/
def digitLimit : Nat := 4300

/-- Blanks around a numeral: the information separators are not among them. -/
def isMargin (c : Char) : Bool :=
  isBlank c && !(0x1c ≤ c.toNat && c.toNat ≤ 0x1f)

/-- Parts a leading sign from the rest; the first component says whether it is a minus. -/
def partSign : List Char → Bool × List Char
  | '-' :: rest => (true, rest)
  | '+' :: rest => (false, rest)
  | text => (false, text)

/-- Whether a character continues the run of digits and underscores. -/
def isRunChar (c : Char) : Bool :=
  isDecimalDigit c || c == '_'

/-- Whether every underscore of a run stands between two digits and there is a digit at all. -/
def wellSpaced : List Char → Bool
  | [] => false
  | [c] => c != '_'
  | c :: next :: rest =>
      c != '_' && (if next = '_' then wellSpaced rest else wellSpaced (next :: rest))

/-- The digit values of a run, most significant first. -/
def digitValues (run : List Char) : List Nat :=
  run.filterMap decimalDigit?

def ofDigits (digits : List Nat) : Nat :=
  digits.foldl (fun number digit => 10 * number + digit) 0

/-- Reads a text as an integer. -/
def read (text : String) : Except NumeralFault Int :=
  let (negative, unsigned) := partSign (text.toList.dropWhile isMargin)
  let run := unsigned.takeWhile isRunChar
  let rest := unsigned.dropWhile isRunChar
  let digits := digitValues run
  if !wellSpaced run then
    .error (.malformed text)
  else if digitLimit < digits.length then
    .error (.tooManyDigits digits.length)
  else if !rest.all isMargin then
    .error (.malformed text)
  else if negative then
    .ok (-(ofDigits digits : Int))
  else
    .ok (ofDigits digits)

end Numeral

end Scriptlet.Text
