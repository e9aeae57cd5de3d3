/-!
# Blanks

Blank characters of running text and the two cuts made at them: trimming both ends, and parting
the first word from what follows it.
-/

namespace Scriptlet.Text

/-- The characters that separate words: the ASCII blanks, the four information separators, the
next-line control and the space, line and paragraph separators of Unicode. -/
def isBlank (c : Char) : Bool :=
  let point := c.toNat
  (0x09 ≤ point && point ≤ 0x0d) || (0x1c ≤ point && point ≤ 0x20) || point == 0x85 ||
    point == 0xa0 || point == 0x1680 || (0x2000 ≤ point && point ≤ 0x200a) ||
    point == 0x2028 || point == 0x2029 || point == 0x202f || point == 0x205f || point == 0x3000

/-- Drops the characters at both ends that satisfy `drop`. -/
def trimBoth (drop : Char → Bool) (text : List Char) : List Char :=
  ((text.dropWhile drop).reverse.dropWhile drop).reverse

def trim (text : String) : String :=
  String.ofList (trimBoth isBlank text.toList)

/-- The first word of a trimmed text, and the text after the blanks that end it. -/
def partWord (text : String) : String × String :=
  let letters := text.toList
  (String.ofList (letters.takeWhile (!isBlank ·)),
    String.ofList ((letters.dropWhile (!isBlank ·)).dropWhile isBlank))

end Scriptlet.Text
