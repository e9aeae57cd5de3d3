import Scriptlet.Text.Numeral
import Scriptlet.Value

/-!
# Outcomes

Outcomes of evaluation: the pieces of text written so far, in order, together with a result or
the fault that ended the evaluation. Text written before a fault is kept.
-/

namespace Scriptlet

/-- The kind of value an operand must have. -/
inductive Demand where
  | integer
  | boolean
  deriving DecidableEq, Repr

namespace Demand

def name : Demand → String
  | integer => "integer"
  | boolean => "boolean"

def refusal (demand : Demand) (found : String) : String :=
  "Expected " ++ demand.name ++ ", got " ++ found

end Demand

/-- Why an evaluation ends without a value. -/
inductive Fault where
  /-- A scalar stands where a node is to be evaluated. -/
  | notANode (content : Option Scalar)
  /-- The node's label is no kind. -/
  | unknownLabel (content : Option Scalar)
  /-- An operand has the wrong kind of value. -/
  | mismatch (demand : Demand) (found : Value)
  | divisionByZero
  | moduloByZero
  /-- A node has fewer children than its kind takes. -/
  | tooFewChildren (expected : Nat) (found : Nat)
  /-- A node has more children than its kind takes. -/
  | tooManyChildren (expected : Nat)
  /-- A conditional lacks its condition or its first branch. -/
  | tooFewBranches (found : Nat)
  /-- A node that needs an operand has none. -/
  | missingOperand
  /-- The payload of a number is not read as an integer. -/
  | badNumeral (fault : Text.NumeralFault)
  /-- An integer has too many digits to be written. -/
  | unwritable
  deriving DecidableEq, Repr

namespace Fault

def message : Fault → String
  | notANode content => "Not a tree node: " ++ Scalar.shownOf content
  | unknownLabel content => "Unknown node: " ++ Scalar.shownOf content
  | mismatch demand found => demand.refusal found.typeName
  | divisionByZero => "Division by zero"
  | moduloByZero => "Modulo by zero"
  | tooFewChildren expected found =>
      "not enough values to unpack (expected " ++ toString expected ++ ", got " ++
        toString found ++ ")"
  | tooManyChildren expected =>
      "too many values to unpack (expected " ++ toString expected ++ ")"
  | tooFewBranches found =>
      "not enough values to unpack (expected at least 2, got " ++ toString found ++ ")"
  | missingOperand => "tuple index out of range"
  | badNumeral fault => fault.message
  | unwritable => Text.unwritableMessage

/-- The fault of coming upon something that is named in the message, which takes writing it. -/
def naming (fault : Option Scalar → Fault) (content : Option Scalar) : Fault :=
  if Scalar.isWritableOf content then fault content else .unwritable

/-- Whether a fault is one of the language's own run-time errors. Only these are reported to the
user of a program; the others concern how a tree was built. -/
def isReported : Fault → Bool
  | notANode _ | unknownLabel _ | mismatch .. | divisionByZero | moduloByZero => true
  | _ => false

end Fault

/-- What an evaluation wrote and how it ended. -/
structure Outcome (α : Type) where
  output : List String
  result : Except Fault α

namespace Outcome

/-- Ends with a value and writes nothing. -/
def value {α : Type} (result : α) : Outcome α :=
  ⟨[], .ok result⟩

/-- Ends with a fault and writes nothing. -/
def fail {α : Type} (fault : Fault) : Outcome α :=
  ⟨[], .error fault⟩

def emit (text : String) : Outcome Unit :=
  ⟨[text], .ok ()⟩

/-- Goes on with the value of an outcome; a fault ends the whole. -/
def andThen {α β : Type} (first : Outcome α) (next : α → Outcome β) : Outcome β :=
  match first.result with
  | .ok result => ⟨first.output ++ (next result).output, (next result).result⟩
  | .error fault => ⟨first.output, .error fault⟩

instance : Monad Outcome where
  pure := value
  bind := andThen

def written {α : Type} (outcome : Outcome α) : String :=
  String.join outcome.output

end Outcome

end Scriptlet
