import Scriptlet.Text.Printable

/-!
# Quoted text

Quoted text: the form in which messages and tree listings show a piece of text.

The text stands between apostrophes, or between double quotes when it holds an apostrophe and no
double quote. A backslash, the delimiter, and the characters that are not printable are escaped,
so the written form never holds a raw line break.
-/

namespace Scriptlet.Text

/-- The lower-case hexadecimal digit of a value below sixteen. -/
def hexDigit (value : Nat) : Char :=
  if value < 10 then Char.ofNat (0x30 + value) else Char.ofNat (0x57 + value)

/-- The last `width` hexadecimal digits of a number, leading zeros included. -/
def hexDigits : (width : Nat) → (value : Nat) → List Char
  | 0, _ => []
  | width + 1, value => hexDigits width (value / 16) ++ [hexDigit (value % 16)]

/-- The numeric escape of a character: two, four or eight digits, whichever holds it first. -/
def escapePoint (c : Char) : List Char :=
  if c.toNat < 0x100 then '\\' :: 'x' :: hexDigits 2 c.toNat
  else if c.toNat < 0x10000 then '\\' :: 'u' :: hexDigits 4 c.toNat
  else '\\' :: 'U' :: hexDigits 8 c.toNat

/-- One character as it is written between the given delimiters. -/
def quoteChar (delimiter c : Char) : List Char :=
  if c = '\\' || c = delimiter then ['\\', c]
  else if c = '\n' then ['\\', 'n']
  else if c = '\r' then ['\\', 'r']
  else if c = '\t' then ['\\', 't']
  else if isPrintable c then [c]
  else escapePoint c

/-- The delimiter for a text: an apostrophe unless only that one would need an escape. -/
def delimiterFor (text : List Char) : Char :=
  if text.contains '\'' && !text.contains '"' then '"' else '\''

def quoteChars (text : List Char) : List Char :=
  let delimiter := delimiterFor text
  delimiter :: text.flatMap (quoteChar delimiter) ++ [delimiter]

def quote (text : String) : String :=
  String.ofList (quoteChars text.toList)

end Scriptlet.Text
