import Mathlib.Data.List.Forall2
import Scriptlet.Proofs.Evaluation.Outcome

/-!
# Interchangeable nodes

Evaluation looks at a child only by evaluating it, except that it asks of an alternative whether
it is the null node and of the middle of a comparison which relation it marks. Two nodes that
agree in all this are alike, each in a context of its own, and so are two nodes of one kind with
children that are alike. Nodes that are alike in every context are interchangeable.
-/

namespace Scriptlet

/-- The kinds whose payloads evaluation looks at. -/
def Kind.payloadKinds : List Kind :=
  [number, string, comparison]

namespace Node

/-- Nodes that no node above them can tell apart, the left one in a context and the right one in
another. -/
structure Alike (context other : Context) (left right : Node) : Prop where
  evaluates : evaluate context left = evaluate other right
  sentinel :
    ∀ kind : Kind, kind.role = .absent → (left.kind? = some kind ↔ right.kind? = some kind)

/-- Nodes that no node above them can tell apart. -/
structure Interchangeable (left right : Node) : Prop where
  evaluates : ∀ context, evaluate context left = evaluate context right
  sentinel :
    ∀ kind : Kind, kind.role = .absent → (left.kind? = some kind ↔ right.kind? = some kind)

namespace Interchangeable

theorem refl (node : Node) : Interchangeable node node :=
  ⟨fun _ => rfl, fun _ _ => Iff.rfl⟩

theorem trans
    {left middle right : Node}
    (first : Interchangeable left middle)
    (second : Interchangeable middle right) :
    Interchangeable left right :=
  ⟨fun context => (first.evaluates context).trans (second.evaluates context),
    fun kind absent => (first.sentinel kind absent).trans (second.sentinel kind absent)⟩

theorem alike
    {left right : Node} (context : Context)
    (same : Interchangeable left right) :
    Alike context context left right :=
  ⟨same.evaluates context, same.sentinel⟩

end Interchangeable

/-! ## Lists of children -/

theorem writeEach_congr
    {lefts rights : List Node}
    (same : List.Forall₂ (Alike none none) lefts rights) :
    writeEach lefts = writeEach rights := by
  induction same with
  | nil => rfl
  | cons first _ inductionHypothesis =>
      rw [writeEach, writeEach, first.evaluates, inductionHypothesis]

section Children

variable {context other : Context} {lefts rights : List Node}
  (same : List.Forall₂ (Alike context other) lefts rights)

include same

theorem visit_congr : visit context lefts = visit other rights := by
  induction same with
  | nil => rfl
  | cons first _ inductionHypothesis =>
      rw [visit, visit, first.evaluates, inductionHypothesis]

theorem addUp_congr : addUp context lefts = addUp other rights := by
  induction same with
  | nil => rfl
  | cons first _ inductionHypothesis =>
      rw [addUp, addUp, first.evaluates, inductionHypothesis]

theorem holdsAny_congr : holdsAny context lefts = holdsAny other rights := by
  induction same with
  | nil => rfl
  | cons first _ inductionHypothesis =>
      rw [holdsAny, holdsAny, first.evaluates, inductionHypothesis]

theorem holdsAll_congr : holdsAll context lefts = holdsAll other rights := by
  induction same with
  | nil => rfl
  | cons first _ inductionHypothesis =>
      rw [holdsAll, holdsAll, first.evaluates, inductionHypothesis]

end Children

theorem relation?_congr
    {context other : Context} {left right : Node} (payload : Option Payload)
    (same : Alike context other left right) :
    relation? payload left = relation? payload right := by
  have sameMarker :
      ∀ relation, left.kind? = some (.marker relation) ↔ right.kind? = some (.marker relation) :=
    fun relation => same.sentinel (.marker relation) rfl
  unfold relation?
  split
  · rfl
  · split
    · next relation marked =>
        rw [(sameMarker relation).1 marked]
    · next unmarked =>
        split
        · next relation marked =>
            exact absurd ((sameMarker relation).2 marked) (unmarked relation)
        · rfl

/-- Nodes of one kind and payload with children that are alike evaluate alike, each in its own
context. Only a node that passes its context on needs the contexts to be the same. -/
theorem branch_congr
    {context other : Context} {lefts rights : List Node} (kind : Kind) (payload : Option Payload)
    (same : List.Forall₂ (Alike context other) lefts rights)
    (written : ∀ lineBreak, kind.role = .write lineBreak → writeEach lefts = writeEach rights)
    (handedOn : kind.role = .passThrough → context = other) :
    evaluate context (.branch (.kind kind) lefts payload) =
      evaluate other (.branch (.kind kind) rights payload) := by
  unfold evaluate
  cases role : kind.role with
  | passThrough =>
      obtain rfl := handedOn role
      simp only [visit_congr same]
  | write lineBreak => simp only [written lineBreak role]
  | number | text | truth _ | absent => rfl
  | sum => simp only [addUp_congr same]
  | any => simp only [holdsAny_congr same]
  | all => simp only [holdsAll_congr same]
  | product | quotient | remainder =>
      cases same with
      | nil => rfl
      | cons first rest =>
          cases rest with
          | nil => rfl
          | cons second rest =>
              cases rest with
              | nil => simp only [first.evaluates, second.evaluates]
              | cons third rest => simp [rest.length_eq]
  | negation | identity | inversion =>
      cases same with
      | nil => rfl
      | cons first rest => simp only [first.evaluates]
  | comparison =>
      cases same with
      | nil => rfl
      | cons first rest =>
          cases rest with
          | nil => rfl
          | cons second rest =>
              cases rest with
              | nil => rfl
              | cons third rest =>
                  cases rest with
                  | nil =>
                      simp only [first.evaluates, third.evaluates, relation?_congr payload second]
                  | cons fourth rest => simp [rest.length_eq]
  | choice =>
      cases same with
      | nil => rfl
      | cons first rest =>
          cases rest with
          | nil => rfl
          | cons second rest =>
              cases rest with
              | nil => simp only [first.evaluates, second.evaluates]
              | cons third rest =>
                  simp only [first.evaluates, second.evaluates, third.evaluates,
                    third.sentinel .null rfl]

/-- Nodes of one kind and payload with interchangeable children evaluate alike. -/
theorem evaluate_congr
    {lefts rights : List Node} (kind : Kind) (payload : Option Payload)
    (same : List.Forall₂ Interchangeable lefts rights) (context : Context) :
    evaluate context (.branch (.kind kind) lefts payload) =
      evaluate context (.branch (.kind kind) rights payload) := by
  have alike (context : Context) : List.Forall₂ (Alike context context) lefts rights :=
    same.imp fun _ _ interchangeable => interchangeable.alike context
  exact branch_congr kind payload (alike context) (fun _ _ => writeEach_congr (alike none))
    fun _ => rfl

/-- Nodes of one kind and payload with interchangeable children are interchangeable. -/
theorem Interchangeable.branch
    {lefts rights : List Node} {kind : Kind} {payload : Option Payload}
    (same : List.Forall₂ Interchangeable lefts rights) :
    Interchangeable (.branch (.kind kind) lefts payload) (.branch (.kind kind) rights payload) :=
  ⟨evaluate_congr kind payload same, fun _ _ => Iff.rfl⟩

/-- Only the role of a kind matters to evaluation. -/
theorem evaluate_eq_of_role_eq
    {kind other : Kind} (children : List Node) (payload : Option Payload)
    (same : kind.role = other.role) (context : Context) :
    evaluate context (.branch (.kind kind) children payload) =
      evaluate context (.branch (.kind other) children payload) := by
  unfold evaluate
  rw [same]

/-- Two kinds of one role, other than the sentinels, label interchangeable nodes. -/
theorem Interchangeable.relabel
    {kind other : Kind} {children : List Node} {payload : Option Payload}
    (same : kind.role = other.role)
    (present : kind.role ≠ .absent) :
    Interchangeable (.branch (.kind kind) children payload)
      (.branch (.kind other) children payload) := by
  refine ⟨evaluate_eq_of_role_eq children payload same, fun sentinel absent => ?_⟩
  constructor
  · intro isSentinel
    cases isSentinel
    exact absurd absent present
  · intro isSentinel
    cases isSentinel
    exact absurd (same.trans absent) present

/-! ## Payloads -/

/-- Nodes of one kind that evaluate alike are interchangeable, whatever they carry. -/
theorem Interchangeable.of_kind
    {kind : Kind} {lefts rights : List Node} {payload other : Option Payload}
    (evaluates :
      ∀ context,
        evaluate context (.branch (.kind kind) lefts payload) =
          evaluate context (.branch (.kind kind) rights other)) :
    Interchangeable (.branch (.kind kind) lefts payload) (.branch (.kind kind) rights other) :=
  ⟨evaluates, fun _ _ => Iff.rfl⟩

/-- Evaluation does not look at the payload of a node of any other kind. -/
theorem evaluate_eq_of_unread
    {kind : Kind} (children : List Node) (payload other : Option Payload)
    (unread : kind ∉ Kind.payloadKinds) (context : Context) :
    evaluate context (.branch (.kind kind) children payload) =
      evaluate context (.branch (.kind kind) children other) := by
  cases kind
  case number | string | comparison => exact absurd (by decide) unread
  all_goals
    unfold evaluate
    rfl

end Node

end Scriptlet
