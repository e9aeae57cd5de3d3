import Mathlib.Data.List.Forall2
import Scriptlet.Proofs.Evaluation.Outcome

/-!
# Places that evaluation does not reach

A stray scalar ends every evaluation that comes upon it with a fault of its own. Put at a place of
a tree it is a tripwire: if the tree evaluates without that fault, then evaluation does not look at
the place, and whatever else stands there makes no difference. Two labels are read without
evaluating their nodes. That of an alternative does no harm, because a stray there is evaluated all
the same; that of the middle of a comparison does, so this place is left out.
-/

namespace Scriptlet

/-! ## Outcomes up to a fault -/

namespace Outcome

variable {α β γ : Type} {fault : Fault}

/-- The first outcome ends with the given fault, or else it is the second one. -/
def AgreesUnless (fault : Fault) (first second : Outcome α) : Prop :=
  first.result = .error fault ∨ first = second

namespace AgreesUnless

theorem refl (outcome : Outcome α) : AgreesUnless fault outcome outcome :=
  .inr rfl

theorem bind
    {first second : Outcome α} {next after : α → Outcome β}
    (firstAgrees : AgreesUnless fault first second)
    (nextAgrees : ∀ result, AgreesUnless fault (next result) (after result)) :
    AgreesUnless fault (first >>= next) (second >>= after) := by
  rcases firstAgrees with tripped | rfl
  · left
    rw [bind_eq_of_error tripped]
  · cases ended : first.result with
    | error earlier =>
        right
        rw [bind_eq_of_error ended, bind_eq_of_error ended]
    | ok result =>
        rw [bind_eq_of_ok ended, bind_eq_of_ok ended]
        rcases nextAgrees result with tripped | same
        · exact .inl tripped
        · exact .inr (by rw [same])

/-- A value is read in the same way before both outcomes go on. -/
theorem read
    {first second : Outcome α} {next after : β → Outcome γ} (reading : α → Outcome β)
    (firstAgrees : AgreesUnless fault first second)
    (nextAgrees : ∀ result, AgreesUnless fault (next result) (after result)) :
    AgreesUnless fault (first >>= fun result => reading result >>= next)
      (second >>= fun result => reading result >>= after) :=
  firstAgrees.bind fun result => (refl (reading result)).bind nextAgrees

end AgreesUnless

end Outcome

namespace Node

/-! ## Places in trees -/

/-- A tree with another node at the place that a path of indices leads to. A path that leads out of
the tree leaves it as it is. -/
def replaced : Node → List Nat → Node → Node
  | _, [], other => other
  | branch label children payload, index :: rest, other =>
      branch label (children.modify index fun child => child.replaced rest other) payload
  | stray content, _ :: _, _ => stray content

/-- Whether a path leads to the middle child of a comparison. -/
def isMiddle : Node → List Nat → Bool
  | _, [] => false
  | node, [index] => index == 1 && node.kind? == some .comparison && node.children.length == 3
  | node, index :: rest => node.children[index]?.any fun child => child.isMiddle rest

theorem kind?_replaced
    (tree : Node) (index : Nat) (rest : List Nat) (other : Node) :
    (tree.replaced (index :: rest) other).kind? = tree.kind? := by
  cases tree with
  | stray content => rfl
  | branch label children payload => cases label <;> rfl

/-- Two lists that differ in one place only are related if the places are. -/
theorem forall₂_modify
    {related : Node → Node → Prop} {change other : Node → Node}
    (children : List Node) (index : Nat)
    (refl : ∀ child, related child child)
    (changed : ∀ child, children[index]? = some child → related (change child) (other child)) :
    List.Forall₂ related (children.modify index change) (children.modify index other) := by
  induction children generalizing index with
  | nil => simp
  | cons first rest inductionHypothesis =>
      cases index with
      | zero =>
          rw [List.modify_zero_cons, List.modify_zero_cons]
          exact .cons (changed first rfl) (List.forall₂_same.2 fun child _ => refl child)
      | succ index =>
          rw [List.modify_succ_cons, List.modify_succ_cons]
          exact .cons (refl first) (inductionHypothesis index changed)

theorem map_kind?_modify
    {change other : Node → Node} (children : List Node) (index position : Nat)
    (same : index = position → ∀ child, (change child).kind? = (other child).kind?) :
    (children.modify index change)[position]?.map kind? =
      (children.modify index other)[position]?.map kind? := by
  rw [List.getElem?_modify, List.getElem?_modify]
  by_cases changed : index = position
  · simp [changed, Function.comp_def, same changed]
  · simp [changed]

/-! ## Nodes in place of each other -/

/-- The left node does in the place of the right one what that does, unless it ends an evaluation
with the fault of a stray scalar. It has the kind of the right node, or it is that scalar. -/
structure Mimics (content : Option Scalar) (left right : Node) : Prop where
  evaluates :
    ∀ context,
      Outcome.AgreesUnless (.naming .notANode content) (evaluate context left)
        (evaluate context right)
  kind : left.kind? = right.kind? ∨ left = .stray content

theorem Mimics.refl (content : Option Scalar) (node : Node) : Mimics content node node :=
  ⟨fun _ => .refl _, .inl rfl⟩

section Children

variable {content : Option Scalar} {lefts rights : List Node}
  (same : List.Forall₂ (Mimics content) lefts rights)

include same

theorem writeEach_agrees :
    Outcome.AgreesUnless (.naming .notANode content) (writeEach lefts) (writeEach rights) := by
  induction same with
  | nil => exact .refl _
  | cons first _ inductionHypothesis =>
      rw [writeEach, writeEach]
      refine (first.evaluates none).bind fun result => ?_
      split
      · exact (Outcome.AgreesUnless.refl _).bind fun _ => inductionHypothesis
      · exact inductionHypothesis

variable (context : Context)

theorem visit_agrees :
    Outcome.AgreesUnless (.naming .notANode content) (visit context lefts)
      (visit context rights) := by
  induction same with
  | nil => exact .refl _
  | cons first _ inductionHypothesis =>
      rw [visit, visit]
      exact (first.evaluates context).bind fun _ => inductionHypothesis

theorem addUp_agrees :
    Outcome.AgreesUnless (.naming .notANode content) (addUp context lefts)
      (addUp context rights) := by
  induction same with
  | nil => exact .refl _
  | cons first _ inductionHypothesis =>
      rw [addUp, addUp]
      refine .read Value.requireInt (first.evaluates context) fun number => ?_
      exact inductionHypothesis.bind fun _ => .refl _

theorem holdsAny_agrees :
    Outcome.AgreesUnless (.naming .notANode content) (holdsAny context lefts)
      (holdsAny context rights) := by
  induction same with
  | nil => exact .refl _
  | cons first _ inductionHypothesis =>
      rw [holdsAny, holdsAny]
      refine .read Value.requireBool (first.evaluates context) fun truth => ?_
      cases truth with
      | true => exact .refl _
      | false => exact inductionHypothesis

theorem holdsAll_agrees :
    Outcome.AgreesUnless (.naming .notANode content) (holdsAll context lefts)
      (holdsAll context rights) := by
  induction same with
  | nil => exact .refl _
  | cons first _ inductionHypothesis =>
      rw [holdsAll, holdsAll]
      refine .read Value.requireBool (first.evaluates context) fun truth => ?_
      cases truth with
      | true => exact inductionHypothesis
      | false => exact .refl _

end Children

/-- The alternative of a conditional is asked whether it is the null node. A stray is not, so it is
evaluated. -/
theorem alternative_agrees
    {content : Option Scalar} {left right : Node}
    (same : Mimics content left right) (context : Context) :
    Outcome.AgreesUnless (.naming .notANode content)
      (if left.kind? = some .null then pure .null else evaluate context left)
      (if right.kind? = some .null then pure .null else evaluate context right) := by
  rcases same.kind with sameKind | rfl
  · rw [sameKind]
    split
    · exact .refl _
    · exact same.evaluates context
  · exact .inl rfl

/-- One step of evaluation: a node agrees with another one of its kind and payload if the children
do, and if the middle children have one kind where they are looked at. -/
theorem branch_agrees
    {content : Option Scalar} {lefts rights : List Node} (kind : Kind) (payload : Option Payload)
    (same : List.Forall₂ (Mimics content) lefts rights)
    (marked :
      kind.role = .comparison → lefts.length = 3 → lefts[1]?.map kind? = rights[1]?.map kind?)
    (context : Context) :
    Outcome.AgreesUnless (.naming .notANode content)
      (evaluate context (.branch (.kind kind) lefts payload))
      (evaluate context (.branch (.kind kind) rights payload)) := by
  unfold evaluate
  cases role : kind.role with
  | passThrough => exact (visit_agrees same context).bind fun _ => .refl _
  | write lineBreak => exact (writeEach_agrees same).bind fun _ => .refl _
  | number | text | truth _ | absent => exact .refl _
  | sum => exact (addUp_agrees same context).bind fun _ => .refl _
  | any => exact (holdsAny_agrees same context).bind fun _ => .refl _
  | all => exact (holdsAll_agrees same context).bind fun _ => .refl _
  | product | quotient | remainder =>
      cases same with
      | nil => exact .refl _
      | cons first rest =>
          cases rest with
          | nil => exact .refl _
          | cons second rest =>
              cases rest with
              | nil =>
                  refine .read Value.requireInt (first.evaluates context) fun left => ?_
                  exact .read Value.requireInt (second.evaluates context) fun right => .refl _
              | cons third rest => exact .inr (by simp [rest.length_eq])
  | negation =>
      cases same with
      | nil => exact .refl _
      | cons first rest =>
          exact .read Value.requireInt (first.evaluates context) fun number => .refl _
  | identity =>
      cases same with
      | nil => exact .refl _
      | cons first rest => exact first.evaluates context
  | inversion =>
      cases same with
      | nil => exact .refl _
      | cons first rest =>
          exact .read Value.requireBool (first.evaluates context) fun truth => .refl _
  | comparison =>
      cases same with
      | nil => exact .refl _
      | cons first rest =>
          cases rest with
          | nil => exact .refl _
          | cons second rest =>
              cases rest with
              | nil => exact .refl _
              | cons third rest =>
                  cases rest with
                  | nil =>
                      have sameKind := Option.some.inj (marked role rfl)
                      refine .read Value.requireInt (first.evaluates context) fun left => ?_
                      refine .read Value.requireInt (third.evaluates context) fun right => ?_
                      simp only [relation?, sameKind]
                      exact .refl _
                  | cons fourth rest => exact .inr (by simp [rest.length_eq])
  | choice =>
      cases same with
      | nil => exact .refl _
      | cons first rest =>
          cases rest with
          | nil => exact .refl _
          | cons second rest =>
              refine .read Value.requireBool (first.evaluates context) fun truth => ?_
              cases truth with
              | true => exact second.evaluates context
              | false =>
                  cases rest with
                  | nil => exact .refl _
                  | cons third rest => exact alternative_agrees third context

/-! ## Strays as tripwires -/

theorem eq_comparison_of_role
    {kind : Kind}
    (role : kind.role = .comparison) :
    kind = .comparison := by
  cases kind <;> first | rfl | cases role

/-- A tree with a stray at a place mimics the tree with any other node there. The induction is on
the path to the place. -/
theorem mimics_replaced
    (content : Option Scalar) (other : Node) {tree : Node} {path : List Nat}
    (notMiddle : tree.isMiddle path = false) :
    Mimics content (tree.replaced path (.stray content)) (tree.replaced path other) := by
  induction path generalizing tree with
  | nil => exact ⟨fun _ => .inl rfl, .inr (by rw [replaced])⟩
  | cons index rest inductionHypothesis =>
      refine ⟨fun context => ?_, .inl (by rw [kind?_replaced, kind?_replaced])⟩
      cases tree with
      | stray content => exact .refl _
      | branch label children payload =>
          cases label with
          | other name => exact .refl _
          | kind kind =>
              have below :
                  ∀ child, children[index]? = some child → child.isMiddle rest = false := by
                intro child found
                cases rest with
                | nil => rfl
                | cons next further => simpa [isMiddle, Node.children, found] using notMiddle
              rw [replaced, replaced]
              refine branch_agrees kind payload ?_ ?_ context
              · exact forall₂_modify children index (Mimics.refl content) fun child found =>
                  inductionHypothesis (below child found)
              · intro compares counted
                refine map_kind?_modify children index 1 fun isSecond child => ?_
                cases rest with
                | nil =>
                    -- The path ends here, so it would lead to the middle of a comparison.
                    have isThree : children.length = 3 := by simpa using counted
                    obtain rfl := eq_comparison_of_role compares
                    simp [isMiddle, isSecond, Node.children, isThree, Node.kind?] at notMiddle
                | cons next further => rw [kind?_replaced, kind?_replaced]

/-- If a tree with a stray at a place, other than the middle of a comparison, evaluates without the
fault of that stray, then it evaluates alike with any other node there. -/
theorem evaluate_replaced_of_unvisited
    {tree : Node} {path : List Nat} {context : Context} {content : Option Scalar}
    (notMiddle : tree.isMiddle path = false)
    (unvisited :
      (evaluate context (tree.replaced path (.stray content))).result ≠
        .error (.naming .notANode content))
    (other : Node) :
    evaluate context (tree.replaced path other) =
      evaluate context (tree.replaced path (.stray content)) := by
  rcases (mimics_replaced content other notMiddle).evaluates context with visited | same
  · exact absurd visited unvisited
  · exact same.symm

/-- The alternative of a conditional: the first operand of `or` decides the condition, and the
chosen branch writes a line before it fails. -/
theorem evaluate_replaced_of_untaken :
    ∃ tree : Node,
      tree =
          plain .conditional
            [plain .disjunction [plain .trueLiteral [], named .idBool "x"],
              plain .clause [plain .println [named .number "1"], plain .neg []],
              plain .clause []] ∧
        tree.isMiddle [2] = false ∧
        (evaluate none (tree.replaced [2] (.stray (some (.text "y"))))).result ≠
          .error (.naming .notANode (some (.text "y"))) ∧
        ∀ other,
          evaluate none (tree.replaced [2] other) =
            evaluate none (tree.replaced [2] (.stray (some (.text "y")))) := by
  have ended :
      (evaluate none
        ((plain .conditional
          [plain .disjunction [plain .trueLiteral [], named .idBool "x"],
            plain .clause [plain .println [named .number "1"], plain .neg []],
            plain .clause []]).replaced [2] (.stray (some (.text "y"))))).result =
        .error .missingOperand := by
    rfl
  refine ⟨_, rfl, rfl, ?_, evaluate_replaced_of_unvisited rfl ?_⟩
  all_goals
    rw [ended]
    nofun

end Node

end Scriptlet
