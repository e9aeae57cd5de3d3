import Scriptlet.Tree.Node

/-!
# Listings of trees

The two written forms of a tree: `describe` puts it on one line, `outline` gives every node a line
of its own, indented by its depth. Trees with an unknown label or an integer of too many digits have
neither form, and trees with a stray scalar have no outline; the first such place that is come upon
is reported.
-/

namespace Scriptlet

/-- Why a tree cannot be written. -/
inductive ListingFault where
  /-- Something in the tree lacks what a node has. -/
  | lacking (owner missing : String)
  /-- An integer has too many digits. -/
  | unwritable
  deriving DecidableEq, Repr

namespace ListingFault

def message : ListingFault → String
  | lacking owner missing => "'" ++ owner ++ "' object has no attribute '" ++ missing ++ "'"
  | unwritable => Text.unwritableMessage

/-- A label that is no kind has no name of its own to write. -/
def unnamed (content : Option Scalar) : ListingFault :=
  .lacking (Scalar.typeNameOf content) "value"

/-- A stray scalar has no label. -/
def unlabelled (content : Option Scalar) : ListingFault :=
  .lacking (Scalar.typeNameOf content) "data"

/-- A stray scalar has no outline. -/
def noOutline (content : Option Scalar) : ListingFault :=
  .lacking (Scalar.typeNameOf content) "pretty"

end ListingFault

namespace Payload

def described : Payload → String
  | scalar carried => carried.shown
  | relation carried =>
      "<CmpOp." ++ carried.title ++ ": " ++ Text.quote carried.symbol ++ ">"

/-- A payload as `outline` shows it: a relation by its operator. -/
def outlined : Payload → String
  | scalar carried => carried.shown
  | relation carried => Text.quote carried.symbol

/-- The part of a listing that a payload takes up, in the given form; none takes up nothing. -/
def written (payload : Option Payload) (form : Payload → String) : Except ListingFault String :=
  match payload with
  | none => .ok ""
  | some carried => if isWritable payload then .ok (form carried) else .error .unwritable

end Payload

namespace Node

/-- The parts of a list, with a comma and a blank between neighbours. -/
def commaSeparated (parts : List String) : String :=
  ", ".intercalate parts

mutual

/-- A tree on one line. -/
def describe : Node → Except ListingFault String
  | stray content =>
      if Scalar.isWritableOf content then .ok (Scalar.shownOf content) else .error .unwritable
  | branch (.other content) _ _ => .error (.unnamed content)
  | branch (.kind kind) children payload => do
      let parts ← describeAll children
      let shownPayload ← Payload.written payload (", value=" ++ ·.described)
      return "Tree(" ++ Text.quote kind.name ++ ", [" ++ commaSeparated parts ++ "]" ++
        shownPayload ++ ")"

def describeAll : List Node → Except ListingFault (List String)
  | [] => .ok []
  | first :: rest => do
      let part ← describe first
      let parts ← describeAll rest
      return part :: parts

end

def outlineLine (margin : String) (kind : Kind) (payload : Option Payload) :
    Except ListingFault String := do
  let shownPayload ← Payload.written payload ("\t" ++ ·.outlined)
  return margin ++ kind.name ++ shownPayload ++ "\n"

mutual

/-- The outline of a tree whose own line starts with `margin`; each level adds `indent`. -/
def outlineFrom (indent margin : String) : Node → Except ListingFault String
  | stray content => .error (.unlabelled content)
  | branch (.other content) _ _ => .error (.unnamed content)
  | branch (.kind kind) children payload => do
      let line ← outlineLine margin kind payload
      let below ← outlineAll indent (margin ++ indent) children
      return line ++ below

/-- The outlines of several trees, one after the other. -/
def outlineAll (indent margin : String) : List Node → Except ListingFault String
  | [] => .ok ""
  | first :: rest => do
      let above ← outlineFrom indent margin first
      let below ← outlineAll indent margin rest
      return above ++ below

end

/-- The indentation of one level when none is asked for. -/
def defaultIndent : String := "  "

def outline (indent : String) : Node → Except ListingFault String
  | stray content => .error (.noOutline content)
  | tree => outlineFrom indent "" tree

end Node

end Scriptlet
