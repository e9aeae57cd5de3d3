import Scriptlet.Scalar

/-!
# Values

Run-time values. Besides the four kinds of the language there is `foreign`, a scalar that a caller
handed in as context; the language passes it on but never computes with it. A context is an
optional value: `none` means that there is no context at all. Integers of any length have their
decimal text here; those that the language computes have ten digits at most.
-/

namespace Scriptlet

/-- The result of evaluating a node. -/
inductive Value where
  | null
  | int (number : Int)
  | bool (truth : Bool)
  | text (content : String)
  | foreign (scalar : Scalar)
  deriving DecidableEq, Repr

namespace Value

/-- The name of a value's type as error messages give it. -/
def typeName : Value → String
  | null => "null"
  | int _ => "integer"
  | bool _ => "boolean"
  | text _ => "string"
  | foreign scalar => scalar.typeName

/-- A truth value in the language's own spelling. -/
def truthText (truth : Bool) : String :=
  if truth then "true" else "false"

/-- A value as the prompt and the command line echo it. Texts stand between double quotes without
any escape, which suffices because a text literal can hold neither a double quote nor a line
break. -/
def echo : Value → String
  | null => "null"
  | int number => toString number
  | bool truth => truthText truth
  | text content => "\"" ++ content ++ "\""
  | foreign scalar => scalar.shown

def display : Value → String
  | null => "null"
  | int number => toString number
  | bool truth => truthText truth
  | text content => content
  | foreign scalar => scalar.plain

/-- Whether a value is one of the language's own four kinds. -/
def isNative : Value → Bool
  | foreign _ => false
  | _ => true

/-- Whether a value stands for absence; absent values are neither printed nor echoed. -/
def isAbsent : Value → Bool
  | null => true
  | _ => false

/-- Equality of values: only within one kind, and for foreign values by their scalars. -/
def same : Value → Value → Bool
  | foreign left, foreign right => left.same right
  | left, right => left == right

end Value

/-! ## Optional values -/

/-- A context value, or none at all. -/
abbrev Context := Option Value

namespace Context

def typeName : Context → String
  | some value => value.typeName
  | none => "null"

def echo : Context → String
  | some value => value.echo
  | none => "None"

def display : Context → String
  | some value => value.display
  | none => "None"

/-- Whether a context holds one of the language's own values. -/
def isNative : Context → Bool
  | some value => value.isNative
  | none => false

def isAbsent : Context → Bool
  | some value => value.isAbsent
  | none => true

def same : Context → Context → Bool
  | some left, some right => left.same right
  | none, none => true
  | _, _ => false

end Context

end Scriptlet
