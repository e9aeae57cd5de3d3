import Scriptlet.Evaluation.Outcome
import Scriptlet.Integer
import Scriptlet.Tree.Node

/-!
# Evaluation

Evaluation of trees, by recursion on the tree. Operands are evaluated from left to right, and a
fault ends the evaluation at once. The number of children is checked before any child is
evaluated.
-/

namespace Scriptlet

namespace Value

/-- The integer that an operand must be. -/
def requireInt : Value → Outcome Int
  | int number => .value number
  | found => .fail (.mismatch .integer found)

def requireBool : Value → Outcome Bool
  | bool truth => .value truth
  | found => .fail (.mismatch .boolean found)

end Value

namespace Node

/-! ## Literals -/

/-- The value of a number's payload: an integer as it is, anything else read as a numeral. -/
def numberValue : Option Payload → Outcome Value
  | some (.scalar (.int number)) => .value (.int (Integer.wrap number))
  | payload =>
      match Text.Numeral.read (Payload.plainOf payload) with
      | .ok number => .value (.int (Integer.wrap number))
      | .error fault => .fail (.badNumeral fault)

/-- A text without its first and last character if it starts with a double quote. -/
def unquoted : List Char → List Char
  | '"' :: second :: rest => (second :: rest).dropLast
  | text => text

/-- The value of a string's payload, which is written first. -/
def textValue (payload : Option Payload) : Outcome Value :=
  if Payload.isWritable payload then
    .value (.text (String.ofList (unquoted (Payload.plainOf payload).toList)))
  else
    .fail .unwritable

/-! ## Operators -/

def quotientValue (dividend divisor : Int) : Outcome Value :=
  match Integer.divMod? dividend divisor with
  | some (quotient, _) => .value (.int quotient)
  | none => .fail .divisionByZero

def remainderValue (dividend divisor : Int) : Outcome Value :=
  match Integer.divMod? dividend divisor with
  | some (_, remainder) => .value (.int remainder)
  | none => .fail .moduloByZero

/-- The relation of a comparison: its payload, or else the one its middle child marks. -/
def relation? (payload : Option Payload) (middle : Node) : Option Relation :=
  match payload with
  | some (.relation relation) => some relation
  | _ =>
      match middle.kind? with
      | some (.marker relation) => some relation
      | _ => none

/-- The value of a comparison; without a relation nothing holds. -/
def comparisonValue (relation : Option Relation) (left right : Int) : Value :=
  match relation with
  | some known => .bool (known.holds left right)
  | none => .bool false

/-- The fault of a node whose kind takes exactly `expected` children. -/
def childCountFault (expected found : Nat) : Fault :=
  if found < expected then .tooFewChildren expected found else .tooManyChildren expected

/-! ## The evaluator -/

mutual

/-- Evaluates a tree in a context. -/
def evaluate (context : Context) : Node → Outcome Value
  | stray content => .fail (.naming .notANode content)
  | branch (.other content) _ _ => .fail (.naming .unknownLabel content)
  | branch (.kind kind) children payload =>
      match kind.role with
      | .passThrough => do
          visit context children
          return context.getD .null
      | .write lineBreak => do
          writeEach children
          if lineBreak then Outcome.emit "\n"
          return .null
      | .number => numberValue payload
      | .text => textValue payload
      | .truth truth => return .bool truth
      | .absent => return .null
      | .sum => do
          let total ← addUp context children
          return .int (Integer.wrap total)
      | .product =>
          match children with
          | [leftNode, rightNode] => do
              let left ← (← evaluate context leftNode).requireInt
              let right ← (← evaluate context rightNode).requireInt
              return .int (Integer.wrap (left * right))
          | _ => .fail (childCountFault 2 children.length)
      | .quotient =>
          match children with
          | [leftNode, rightNode] => do
              let left ← (← evaluate context leftNode).requireInt
              let right ← (← evaluate context rightNode).requireInt
              quotientValue left right
          | _ => .fail (childCountFault 2 children.length)
      | .remainder =>
          match children with
          | [leftNode, rightNode] => do
              let left ← (← evaluate context leftNode).requireInt
              let right ← (← evaluate context rightNode).requireInt
              remainderValue left right
          | _ => .fail (childCountFault 2 children.length)
      | .negation =>
          match children with
          | operand :: _ => do
              let number ← (← evaluate context operand).requireInt
              return .int (Integer.wrap (-number))
          | [] => .fail .missingOperand
      | .identity =>
          match children with
          | operand :: _ => evaluate context operand
          | [] => .fail .missingOperand
      | .inversion =>
          match children with
          | operand :: _ => do
              let truth ← (← evaluate context operand).requireBool
              return .bool (!truth)
          | [] => .fail .missingOperand
      | .any => do
          let truth ← holdsAny context children
          return .bool truth
      | .all => do
          let truth ← holdsAll context children
          return .bool truth
      | .comparison =>
          match children with
          | [leftNode, middle, rightNode] => do
              let left ← (← evaluate context leftNode).requireInt
              let right ← (← evaluate context rightNode).requireInt
              return comparisonValue (relation? payload middle) left right
          | _ => .fail (childCountFault 3 children.length)
      | .choice =>
          match children with
          | condition :: chosen :: others => do
              let truth ← (← evaluate context condition).requireBool
              if truth then
                evaluate context chosen
              else
                match others with
                | [] => return .null
                | alternative :: _ =>
                    if alternative.kind? = some .null then return .null
                    else evaluate context alternative
          | _ => .fail (.tooFewBranches children.length)

/-- Evaluates nodes for what they write. -/
def visit (context : Context) : List Node → Outcome Unit
  | [] => return ()
  | first :: rest => do
      let _ ← evaluate context first
      visit context rest

/-- Evaluates nodes without context and writes each value that is not absent at once. -/
def writeEach : List Node → Outcome Unit
  | [] => return ()
  | first :: rest => do
      let result ← evaluate none first
      if !result.isAbsent then Outcome.emit result.display
      writeEach rest

/-- The unbounded sum of the values of nodes. -/
def addUp (context : Context) : List Node → Outcome Int
  | [] => return 0
  | first :: rest => do
      let number ← (← evaluate context first).requireInt
      let others ← addUp context rest
      return number + others

/-- Whether some node yields true; later nodes are not evaluated. -/
def holdsAny (context : Context) : List Node → Outcome Bool
  | [] => return false
  | first :: rest => do
      let truth ← (← evaluate context first).requireBool
      if truth then return true else holdsAny context rest

/-- Whether no node yields false; later nodes are not evaluated. -/
def holdsAll (context : Context) : List Node → Outcome Bool
  | [] => return true
  | first :: rest => do
      let truth ← (← evaluate context first).requireBool
      if truth then holdsAll context rest else return false

end

end Node

end Scriptlet
