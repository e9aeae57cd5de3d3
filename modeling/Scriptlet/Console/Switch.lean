import Scriptlet.Text.Blank

/-!
# Switches

Switches of the console. A switch is set by a word for on or off, or turned over when no word is
given; letters count regardless of case. The switch for showing the frames of a failure lives in a
setting of the surroundings, which may be missing or hold any text.
-/

namespace Scriptlet.Switch

/-- A text with its ASCII letters in lower case. No other letter has a lower case that occurs in
the words below. -/
def lowerCase (text : String) : String :=
  String.ofList (text.toList.map Char.toLower)

def onWords : List String := ["on", "1", "true", "yes"]

def offWords : List String := ["off", "0", "false", "no"]

/-- The position of a switch after an argument; none if the argument means nothing. -/
def toggle (argument : String) (current : Bool) : Option Bool :=
  let word := lowerCase argument
  if onWords.contains word then some true
  else if offWords.contains word then some false
  else if word = "" then some (!current)
  else none

def positionName (on : Bool) : String :=
  if on then "on" else "off"

/-! ## Settings -/

abbrev Setting := Option String

def Setting.isOn : Setting → Bool
  | some text => onWords.contains (lowerCase (Text.trim text))
  | none => false

def Setting.ofPosition (on : Bool) : Setting :=
  if on then some "1" else none

end Scriptlet.Switch
