import Scriptlet.Proofs.Evaluation.Congruence
import Scriptlet.Proofs.Tree.Kinds
import Scriptlet.Proofs.Tree.Occurrence

/-!
# Relabelled trees

Nothing is stored, invoked or looked up, so evaluation cannot tell the kinds that only pass through
apart, and it does not read the names that nodes carry. Exchanging such kinds and changing such
payloads, at any number of places at once, changes neither a value nor the output nor a fault. This
includes the two places whose kind is looked at without evaluation: a kind that passes through is
neither the null node of an alternative nor the marker of a relation.
-/

namespace Scriptlet

/-- Labels that evaluation cannot tell apart: two kinds that only pass through, or the same label
twice. -/
inductive Label.Akin : Label → Label → Prop
  | same (label : Label) : Akin label label
  | passing {kind other : Kind} :
      kind ∈ Kind.passThroughKinds → other ∈ Kind.passThroughKinds →
        Akin (.kind kind) (.kind other)

namespace Node

/-- Trees of one shape with akin labels, whose payloads are the same where they are read. -/
inductive Relabelled : Node → Node → Prop
  | stray (content : Option Scalar) : Relabelled (.stray content) (.stray content)
  | branch
      {label other : Label} {lefts rights : List Node} {payload carried : Option Payload} :
      label.Akin other →
      (∀ kind ∈ Kind.payloadKinds, label = .kind kind → payload = carried) →
      List.Forall₂ Relabelled lefts rights →
      Relabelled (.branch label lefts payload) (.branch other rights carried)

/-- Exchanging a payload that is not read leaves a node interchangeable. -/
theorem Interchangeable.of_unread
    {kind : Kind} {children : List Node} {payload carried : Option Payload}
    (kept : kind ∈ Kind.payloadKinds → payload = carried) :
    Interchangeable (.branch (.kind kind) children payload)
      (.branch (.kind kind) children carried) := by
  by_cases read : kind ∈ Kind.payloadKinds
  · rw [kept read]
    exact .refl _
  · exact .of_kind (evaluate_eq_of_unread children payload carried read)

/-- Exchanging a label for an akin one leaves a node interchangeable. -/
theorem Interchangeable.of_akin
    {label other : Label} {children : List Node} {payload : Option Payload}
    (akin : label.Akin other) :
    Interchangeable (.branch label children payload) (.branch other children payload) := by
  cases akin with
  | same => exact .refl _
  | passing passes otherPasses =>
      have role := Kind.mem_passThroughKinds.1 passes
      have otherRole := Kind.mem_passThroughKinds.1 otherPasses
      exact .relabel (role.trans otherRole.symm) (by simp [role])

/-- Relabelled trees are interchangeable. The induction is on the tree; at each node the children,
the payload and the label are exchanged one after the other. -/
theorem Relabelled.interchangeable
    {left right : Node}
    (relabelled : Relabelled left right) :
    Interchangeable left right := by
  induction left using inductionOn generalizing right with
  | step left inductionHypothesis =>
      cases relabelled with
      | stray content => exact .refl _
      | @branch label other lefts rights payload carried akin kept same =>
          cases label with
          | other name =>
              -- The label is no kind, and evaluation fails without looking any further.
              cases akin
              exact ⟨fun _ => by rw [evaluate, evaluate], fun _ _ => Iff.rfl⟩
          | kind kind =>
              have below :
                  ∀ child ∈ lefts,
                    ∀ {relabelledChild : Node},
                      Relabelled child relabelledChild →
                        Interchangeable child relabelledChild :=
                inductionHypothesis
              have sameChildren : List.Forall₂ Interchangeable lefts rights :=
                ((List.forall₂_and_left lefts rights).2 ⟨below, same⟩).imp
                  fun _ _ child => child.1 child.2
              have sameUnderKind :
                  Interchangeable (.branch (.kind kind) lefts payload)
                    (.branch (.kind kind) rights carried) :=
                (Interchangeable.branch sameChildren).trans
                  (.of_unread fun read => kept kind read rfl)
              exact sameUnderKind.trans (.of_akin akin)

/-- Trees that differ only in kinds that pass through and in payloads that are not read evaluate
alike in every context. -/
theorem evaluate_eq_of_relabelled
    {left right : Node}
    (relabelled : Relabelled left right) (context : Context) :
    evaluate context left = evaluate context right :=
  relabelled.interchangeable.evaluates context

/-- A comparison with a name in its middle decides for the alternative, which writes a line break
and comes upon an unknown label. The branch that is not taken is a stray. -/
theorem evaluate_eq_of_relabelled_alternative :
    ∃ left right : Node,
      left =
          plain .conditional
            [plain .comparison [named .number "1", named .idNum "x", named .number "2"],
              .stray (some (.text "y")),
              plain .clause
                [plain .println [named .idNum "z"],
                  .branch (.other (some (.text "frame"))) [] none]] ∧
        right =
          .branch (.kind .conditional)
            [plain .comparison [named .number "1", plain .vecConst [], named .number "2"],
              .stray (some (.text "y")),
              plain .assign
                [plain .println [named .fnCall "v"],
                  .branch (.other (some (.text "frame"))) [] (some (.scalar (.int 3)))]]
            (some (.relation .less)) ∧
        Relabelled left right ∧
        evaluate none left = evaluate none right := by
  have passing {kind : Kind} (passes : kind.role = .passThrough) : kind ∈ Kind.passThroughKinds :=
    Kind.mem_passThroughKinds.2 passes
  have numeral (text : String) : Relabelled (named .number text) (named .number text) :=
    .branch (.same _) (fun _ _ _ => rfl) .nil
  have middle : Relabelled (named .idNum "x") (plain .vecConst []) :=
    .branch (.passing (passing rfl) (passing rfl)) (by decide) .nil
  have condition :
      Relabelled (plain .comparison [named .number "1", named .idNum "x", named .number "2"])
        (plain .comparison [named .number "1", plain .vecConst [], named .number "2"]) :=
    .branch (.same _) (by decide)
      (.cons (numeral "1") (.cons middle (.cons (numeral "2") .nil)))
  have written :
      Relabelled (plain .println [named .idNum "z"]) (plain .println [named .fnCall "v"]) :=
    .branch (.same _) (by decide)
      (.cons (.branch (.passing (passing rfl) (passing rfl)) (by decide) .nil) .nil)
  have unknown :
      Relabelled (.branch (.other (some (.text "frame"))) [] none)
        (.branch (.other (some (.text "frame"))) [] (some (.scalar (.int 3)))) :=
    .branch (.same _) (by decide) .nil
  have alternative :
      Relabelled
        (plain .clause
          [plain .println [named .idNum "z"], .branch (.other (some (.text "frame"))) [] none])
        (plain .assign
          [plain .println [named .fnCall "v"],
            .branch (.other (some (.text "frame"))) [] (some (.scalar (.int 3)))]) :=
    .branch (.passing (passing rfl) (passing rfl)) (by decide)
      (.cons written (.cons unknown .nil))
  refine ⟨_, _, rfl, rfl, ?relabelled, evaluate_eq_of_relabelled ?relabelled none⟩
  exact .branch (.same _) (by decide)
    (.cons condition (.cons (.stray _) (.cons alternative .nil)))

end Node

end Scriptlet
