/-!
# Positions

Places in a text, for people: the line and column of an offset, and the stretch of text around it
with a mark under the place. Only a line feed ends a line.
-/

namespace Scriptlet

/-- A line and a column, both counted from one. -/
structure Position where
  line : Nat
  column : Nat
  deriving DecidableEq, Repr

namespace Position

/-- The characters of a text after its last line feed. -/
def lastLine (text : List Char) : List Char :=
  (text.reverse.takeWhile (· != '\n')).reverse

/-- The characters of a text before its first line feed. -/
def firstLine (text : List Char) : List Char :=
  text.takeWhile (· != '\n')

def ofOffset (text : List Char) (offset : Nat) : Position :=
  let before := text.take offset
  ⟨before.count '\n' + 1, (lastLine before).length + 1⟩

/-- How many characters of context are shown on either side of a place. -/
def contextSpan : Nat := 40

def tabStop : Nat := 8

/-- The length of a text once its tabs are filled up with blanks, starting at a column. A carriage
return takes up a character and puts the column back to zero. -/
def expandedLength : (column : Nat) → List Char → Nat
  | _, [] => 0
  | column, c :: rest =>
      if c = '\t' then
        let filled := tabStop - column % tabStop
        filled + expandedLength (column + filled) rest
      else if c = '\r' then
        1 + expandedLength 0 rest
      else
        1 + expandedLength (column + 1) rest

/-- The line around an offset, at most forty characters to either side, and below it a mark. -/
def context (text : List Char) (offset : Nat) : String :=
  let before := lastLine ((text.take offset).drop (offset - contextSpan))
  let after := firstLine ((text.drop offset).take contextSpan)
  String.ofList (before ++ after ++ ['\n'] ++ List.replicate (expandedLength 0 before) ' ') ++
    "^\n"

end Position

end Scriptlet
