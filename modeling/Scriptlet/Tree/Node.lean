import Scriptlet.Scalar
import Scriptlet.Tree.Kind

/-!
# Nodes

Tree nodes. A node has a label, children in order and possibly a payload. Trees may be built by
hand, so a label need not be a known kind and a scalar may stand where a node belongs; such trees
are ordinary values here, and evaluation and printing report them.
-/

namespace Scriptlet

/-- What a node is labelled with: a kind, or anything else, or nothing at all. -/
inductive Label where
  | kind (kind : Kind)
  | other (content : Option Scalar)
  deriving DecidableEq, Repr

/-- What a node carries besides its children. -/
inductive Payload where
  | scalar (scalar : Scalar)
  | relation (relation : Relation)
  deriving DecidableEq, Repr

/-- A tree. `stray` is a scalar, or nothing at all, in the place of a node. -/
inductive Node where
  | branch (label : Label) (children : List Node) (payload : Option Payload)
  | stray (content : Option Scalar)
  deriving Repr

namespace Label

def ofName (name : String) : Label :=
  match Kind.ofName? name with
  | some known => .kind known
  | none => .other (some (.text name))

end Label

namespace Payload

/-- Whether a payload, or the lack of one, can be written. -/
def isWritable : Option Payload → Bool
  | some (.scalar carried) => carried.isWritable
  | _ => true

def plain : Payload → String
  | scalar carried => carried.plain
  | relation carried => "CmpOp." ++ carried.title

/-- Equality of payloads; a relation equals only itself. -/
def same : Payload → Payload → Bool
  | scalar left, scalar right => left.same right
  | relation left, relation right => left == right
  | _, _ => false

def plainOf : Option Payload → String
  | some payload => payload.plain
  | none => "None"

def sameOf : Option Payload → Option Payload → Bool
  | some left, some right => left.same right
  | none, none => true
  | _, _ => false

end Payload

namespace Node

/-! ## Building nodes -/

def plain (kind : Kind) (children : List Node) : Node :=
  .branch (.kind kind) children none

/-- A childless node of a known kind that carries a text. -/
def named (kind : Kind) (text : String) : Node :=
  .branch (.kind kind) [] (some (.scalar (.text text)))

/-- A comparison: the relation is the payload, and its marker stands between the operands. -/
def comparison (left : Node) (relation : Relation) (right : Node) : Node :=
  .branch (.kind .comparison) [left, plain (.marker relation) [], right]
    (some (.relation relation))

/-- Why a node cannot be built. -/
inductive ShapeFault where
  | wrongArity (kind : Kind) (expected : Nat) (found : Nat)
  | markerWithChildren (relation : Relation)
  | unknownRelation (symbol : String)
  deriving DecidableEq, Repr

namespace ShapeFault

def message : ShapeFault → String
  | wrongArity kind expected found =>
      kind.name ++ " takes " ++ toString expected ++ " children, got " ++ toString found
  | markerWithChildren relation =>
      "operator marker " ++ relation.name ++ " takes no children"
  | unknownRelation symbol =>
      Text.quote symbol ++ " is not a valid CmpOp"

end ShapeFault

/-- Builds a node after checking the fixed arity of its kind and that markers are childless. -/
def build
    (label : Label)
    (children : List Node)
    (payload : Option Payload) :
    Except ShapeFault Node :=
  match label with
  | .other _ => .ok (.branch label children payload)
  | .kind kind =>
      match kind.arity?, kind with
      | some expected, _ =>
          if children.length = expected then .ok (.branch label children payload)
          else .error (.wrongArity kind expected children.length)
      | none, .marker relation =>
          if children.isEmpty then .ok (.branch label children payload)
          else .error (.markerWithChildren relation)
      | none, _ => .ok (.branch label children payload)

/-- Builds a comparison from the operator that writes its relation. -/
def compare (left : Node) (symbol : String) (right : Node) : Except ShapeFault Node :=
  match Relation.ofSymbol? symbol with
  | some relation => .ok (comparison left relation right)
  | none => .error (.unknownRelation symbol)

/-! ## Looking at nodes -/

def isBranch : Node → Bool
  | branch .. => true
  | stray _ => false

def label? : Node → Option Label
  | branch label _ _ => some label
  | stray _ => none

/-- The kind of a node, if its label is one. -/
def kind? : Node → Option Kind
  | branch (.kind kind) _ _ => some kind
  | _ => none

/-- The children of a node; a stray scalar has none. -/
def children : Node → List Node
  | branch _ children _ => children
  | stray _ => []

/-- The wording that refuses a change to a finished node. -/
def immutableMessage (field : String) : String :=
  "Tree nodes are immutable (tried to set " ++ Text.quote field ++ ")"

/-! ## Equality -/

mutual

/-- Equality of trees, with payloads and stray scalars compared as scalars are. -/
def same : Node → Node → Bool
  | branch leftLabel leftChildren leftPayload, branch rightLabel rightChildren rightPayload =>
      leftLabel == rightLabel && Payload.sameOf leftPayload rightPayload &&
        sameAll leftChildren rightChildren
  | stray left, stray right => Scalar.sameOf left right
  | _, _ => false

def sameAll : List Node → List Node → Bool
  | [], [] => true
  | left :: lefts, right :: rights => same left right && sameAll lefts rights
  | _, _ => false

end

mutual

/-- Decides whether two trees are one and the same. -/
def decEq : (left right : Node) → Decidable (left = right)
  | stray left, stray right => decidable_of_iff (left = right) (by simp)
  | branch label children payload, branch otherLabel otherChildren otherPayload =>
      have := decEqAll children otherChildren
      decidable_of_iff (label = otherLabel ∧ children = otherChildren ∧ payload = otherPayload)
        (by simp)
  | stray _, branch .. => isFalse nofun
  | branch .., stray _ => isFalse nofun

def decEqAll : (lefts rights : List Node) → Decidable (lefts = rights)
  | [], [] => isTrue rfl
  | left :: lefts, right :: rights =>
      have := decEq left right
      have := decEqAll lefts rights
      decidable_of_iff (left = right ∧ lefts = rights) (by simp)
  | [], _ :: _ => isFalse nofun
  | _ :: _, [] => isFalse nofun

end

instance : DecidableEq Node := decEq

end Node

end Scriptlet
