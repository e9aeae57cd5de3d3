import Scriptlet.Text.Numeral

/-!
# Scalars

Scalars: what the language did not make itself and takes as it is. They are plain texts, integers
and truth values, and objects of which only their written forms are known. They occur as payloads
and labels of tree nodes, in places where a tree should hold a node, and as context values handed in
by a caller.
-/

namespace Scriptlet

/-- An object that is no text, integer or truth value. It is known by the name of its type and by
its two written forms, the plain one and the one in listings; objects that agree in these are not
told apart. Objects that have a part of a node, or that cannot be looked up as a label, are left
out. -/
structure HostObject where
  typeName : String
  plain : String
  shown : String
  deriving DecidableEq, Repr

/-- A text, an integer, a truth value or any other object. -/
inductive Scalar where
  | text (content : String)
  | int (number : Int)
  | bool (truth : Bool)
  | object (object : HostObject)
  deriving DecidableEq, Repr

namespace Scalar

/-- The name of a scalar's type as messages give it. -/
def typeName : Scalar → String
  | text _ => "str"
  | int _ => "int"
  | bool _ => "bool"
  | object carried => carried.typeName

/-- Whether a scalar can be written: integers of too many digits cannot. -/
def isWritable : Scalar → Bool
  | int number => number.natAbs < Nat.pow 10 Text.Numeral.digitLimit
  | _ => true

/-- The text of a scalar that can be written. -/
def plain : Scalar → String
  | text content => content
  | int number => toString number
  | bool true => "True"
  | bool false => "False"
  | object carried => carried.plain

/-- A scalar that can be written, as a listing shows it. -/
def shown : Scalar → String
  | text content => Text.quote content
  | object carried => carried.shown
  | scalar => scalar.plain

/-- The number that a scalar counts as: truth values count as zero and one. -/
def number? : Scalar → Option Int
  | int number => some number
  | bool truth => some (if truth then 1 else 0)
  | _ => none

/-- Equality of scalars: texts with texts, objects with objects, and everything else by number. -/
def same : Scalar → Scalar → Bool
  | text left, text right => left == right
  | object left, object right => left == right
  | left, right =>
      match left.number?, right.number? with
      | some leftNumber, some rightNumber => leftNumber == rightNumber
      | _, _ => false

def isWritableOf : Option Scalar → Bool
  | some scalar => scalar.isWritable
  | none => true

def typeNameOf : Option Scalar → String
  | some scalar => scalar.typeName
  | none => "NoneType"

/-- A scalar that may be missing, as a listing shows it. -/
def shownOf : Option Scalar → String
  | some scalar => scalar.shown
  | none => "None"

def sameOf : Option Scalar → Option Scalar → Bool
  | some left, some right => left.same right
  | none, none => true
  | _, _ => false

end Scalar

end Scriptlet
