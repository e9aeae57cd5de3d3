import Scriptlet.Proofs.Evaluation.Congruence
import Scriptlet.Proofs.Evaluation.Equations
import Scriptlet.Proofs.Evaluation.Output
import Scriptlet.Proofs.Grammar.Statements
import Scriptlet.Proofs.Tree.Headings
import Scriptlet.Proofs.Tree.Printing

/-!
# Line breaks in the output

Evaluation comes by every node at most once, so a program breaks as many lines as it has `println`
nodes at most. Without conditionals it comes by all of them unless it fails: the bodies of loops
and functions are visited once like any other node.
-/

namespace Scriptlet

/-! ## Line breaks of outcomes -/

namespace Outcome

variable {α β : Type}

/-- The number of line breaks that an outcome wrote. -/
def lineBreaks (outcome : Outcome α) : Nat :=
  outcome.written.toList.count '\n'

theorem lineBreaks_eq_zero
    {outcome : Outcome α}
    (plain : outcome.Writes fun piece => '\n' ∉ piece.toList) :
    outcome.lineBreaks = 0 := by
  rw [lineBreaks, written, String.toList_join, List.count_eq_zero]
  intro member
  obtain ⟨piece, among, inside⟩ := List.mem_flatMap.1 member
  exact plain piece among inside

/-- An outcome has at most so many line breaks, and just as many if it is a value and `all`
holds. -/
structure Breaks (all : Prop) (most : Nat) (outcome : Outcome α) : Prop where
  le : outcome.lineBreaks ≤ most
  eq : all → ∀ result, outcome.result = .ok result → outcome.lineBreaks = most

variable {all : Prop}

theorem breaks_zero
    {outcome : Outcome α}
    (plain : outcome.Writes fun piece => '\n' ∉ piece.toList) :
    outcome.Breaks all 0 := by
  have noBreak := lineBreaks_eq_zero plain
  exact ⟨noBreak.le, fun _ _ _ => noBreak⟩

theorem breaks_pure (result : α) : (pure result : Outcome α).Breaks all 0 :=
  breaks_zero (writes_pure result)

theorem breaks_emit : (emit "\n").Breaks all 1 :=
  ⟨by decide, fun _ _ _ => by decide⟩

/-- Steps in a row add up; a fault leaves the later ones out. -/
theorem Breaks.bind
    {first : Outcome α} {next : α → Outcome β} {most more : Nat}
    (firstBreaks : first.Breaks all most)
    (nextBreaks : ∀ result, first.result = .ok result → (next result).Breaks all more) :
    (first >>= next).Breaks all (most + more) := by
  cases ended : first.result with
  | error fault =>
      rw [bind_eq_of_error ended]
      refine ⟨?_, fun _ result succeeded => ?_⟩
      · exact Nat.le_add_right_of_le firstBreaks.le
      · cases succeeded
  | ok result =>
      have later := nextBreaks result ended
      have total :
          (first >>= next).lineBreaks = first.lineBreaks + (next result).lineBreaks := by
        rw [bind_eq_of_ok ended]
        simp [lineBreaks, written, String.join_append]
      rw [bind_eq_of_ok ended] at total ⊢
      refine ⟨?_, fun holds last succeeded => ?_⟩
      · rw [total]
        exact Nat.add_le_add firstBreaks.le later.le
      · rw [total, firstBreaks.eq holds result ended, later.eq holds last succeeded]

/-- The bound may be raised where equality is not asked for. -/
theorem Breaks.mono
    {outcome : Outcome α} {most more : Nat}
    (breaks : outcome.Breaks all most)
    (atMost : most ≤ more)
    (never : ¬all) :
    outcome.Breaks all more :=
  ⟨breaks.le.trans atMost, fun holds => absurd holds never⟩

end Outcome

namespace Node

/-! ## Trees without line breaks -/

theorem Speaks.said
    {spoken : String → Prop} {tree : Node} {content : String}
    (speaks : tree.Speaks spoken)
    (saysContent : tree.Says content) :
    spoken content := by
  obtain ⟨part, contained, isString, returns⟩ := saysContent
  obtain ⟨children, payload, rfl⟩ := exists_branch_of_kind? isString
  have returned : (textValue payload).result = .ok (.text content) :=
    congrArg Outcome.result (returns none)
  exact speaks.of_contains contained children payload rfl _ returned

/-- Pieces of a tree that never breaks a line have no line break: its texts come from literals. -/
theorem Piece.newline_notMem
    {tree : Node} {piece : String}
    (quiet : tree.Quiet)
    (speaks : tree.Speaks Sayable)
    (isPiece : Piece tree piece) :
    '\n' ∉ piece.toList := by
  cases isPiece with
  | lineBreak contained isPrintln =>
      obtain ⟨children, payload, rfl⟩ := exists_branch_of_kind? isPrintln
      have counted := count_le_of_contains .println contained
      rw [quiet] at counted
      simp at counted
  | yes => decide
  | no => decide
  | @number number _ _ =>
      have literal : (Scalar.int number).isLiteral = true := rfl
      exact Scalar.newline_notMem_shown literal
  | text saysPiece =>
      intro member
      exact absurd (speaks.said saysPiece '\n' member) (by decide)

theorem Quiet.breaks
    {node : Node} {all : Prop}
    (quiet : node.Quiet)
    (speaks : node.Speaks Sayable) (context : Context) :
    (evaluate context node).Breaks all 0 := by
  have inside : node.Everywhere node.Contains := everywhere_of_contains fun _ contained => contained
  refine Outcome.breaks_zero fun piece among => ?_
  exact (evaluate_writes inside node.speaks_says context piece among).newline_notMem quiet speaks

/-! ## Statements -/

theorem requireBool_breaks {all : Prop} (value : Value) : value.requireBool.Breaks all 0 :=
  Outcome.breaks_zero (requireBool_kept (Outcome.kept_writes _) value)

theorem visit_breaks
    {all : Prop} {context : Context} {nodes : List Node}
    (each : ∀ node ∈ nodes, (evaluate context node).Breaks all (node.count .println)) :
    (visit context nodes).Breaks all (countAll .println nodes) := by
  induction nodes with
  | nil => exact Outcome.breaks_pure ()
  | cons first rest inductionHypothesis =>
      obtain ⟨firstBreaks, restBreak⟩ := List.forall_mem_cons.1 each
      rw [visit]
      exact firstBreaks.bind fun _ _ => inductionHypothesis restBreak

/-- A statement breaks at most as many lines as it has `println` nodes, and as many if it ends with
a value and there are no conditionals. The induction follows the places of statements; at a
conditional only one branch is evaluated, so that nothing but the bound is left. -/
theorem Orderly.breaks
    {node : Node} {all : Prop}
    (orderly : node.Orderly)
    (speaks : node.Speaks Sayable)
    (unconditional : all → node.count .conditional = 0) (context : Context) :
    (evaluate context node).Breaks all (node.count .println) := by
  induction orderly generalizing context with
  | quiet isQuiet =>
      rw [isQuiet]
      exact isQuiet.breaks speaks context
  | @println children payload childrenQuiet =>
      have printQuiet : (plain .print children).Quiet := quiet_branch nofun childrenQuiet
      have printSpeaks : (plain .print children).Speaks Sayable := .intro nofun speaks.children
      have counted :
          count .println (.branch (.kind .println) children payload) = 0 + (1 + 0) := by
        simp [(countAll_eq_zero_iff _).2 childrenQuiet]
      rw [evaluate_println, counted]
      refine (printQuiet.breaks printSpeaks context).bind fun _ _ => ?_
      exact Outcome.breaks_emit.bind fun _ _ => Outcome.breaks_pure _
  | @passing kind children payload passes _ inductionHypothesis =>
      have notPrintln : kind ≠ .println := by
        rintro rfl
        cases passes
      have counted :
          count .println (.branch (.kind kind) children payload) =
            countAll .println children + 0 := by
        simp [notPrintln]
      have likeBody : kind.role = Kind.body.role := passes
      rw [evaluate_eq_of_role_eq children payload likeBody, evaluate_body, counted]
      refine (visit_breaks fun child member => ?_).bind fun _ _ => Outcome.breaks_pure _
      have childSpeaks := speaks.children child member
      refine inductionHypothesis child member childSpeaks (fun holds => ?_) context
      have noConditional := unconditional holds
      have below := count_le_countAll .conditional member
      rw [count_branch] at noConditional
      omega
  | @choosing condition chosen alternative payload conditionQuiet _ _ chosenBreaks otherBreaks =>
      have never : ¬all := by
        intro holds
        have noConditional := unconditional holds
        simp at noConditional
      have counted :
          count .println (.branch (.kind .conditional) [condition, chosen, alternative] payload) =
            0 + (0 + (chosen.count .println + alternative.count .println)) := by
        have quiet : condition.count .println = 0 := conditionQuiet
        simp [quiet]
      have conditionSpeaks := speaks.children condition (by simp [Node.children])
      have chosenSpeaks := speaks.children chosen (by simp [Node.children])
      have otherSpeaks := speaks.children alternative (by simp [Node.children])
      rw [evaluate_conditional, counted]
      refine (conditionQuiet.breaks conditionSpeaks context).bind fun value _ => ?_
      refine (requireBool_breaks value).bind fun truth _ => ?_
      cases truth with
      | true =>
          rw [if_pos rfl]
          refine (chosenBreaks chosenSpeaks (fun holds => absurd holds never) context).mono ?_ never
          exact Nat.le_add_right _ _
      | false =>
          rw [if_neg Bool.false_ne_true]
          by_cases sentinel : alternative.kind? = some .null
          · rw [if_pos sentinel]
            exact (Outcome.breaks_pure _).mono (Nat.zero_le _) never
          · rw [if_neg sentinel]
            refine (otherBreaks otherSpeaks (fun holds => absurd holds never) context).mono ?_ never
            exact Nat.le_add_left _ _

theorem Orderly.unwrapped
    {node : Node}
    (orderly : node.Orderly) :
    (Program.unwrapped node).Orderly := by
  unfold Program.unwrapped
  split
  · next statement payload =>
      cases orderly with
      | quiet isQuiet => exact .quiet (isQuiet.children statement (List.mem_singleton_self _))
      | passing _ childrenOrderly => exact childrenOrderly statement (List.mem_singleton_self _)
  · exact orderly

theorem count_unwrapped
    {kind : Kind} (node : Node)
    (notBody : kind ≠ .body) :
    (Program.unwrapped node).count kind = node.count kind := by
  unfold Program.unwrapped
  split
  · simp [notBody.symm]
  · rfl

end Node

/-! ## Programs -/

namespace Program

theorem tree_speaks
    {source : String} {tree : Node}
    (accepted : Program.tree source = .ok tree) :
    tree.Speaks Node.Sayable := by
  obtain ⟨parsed, succeeded, rfl⟩ := exists_parsed_of_tree_eq_ok accepted
  have fits := Parsed.fits_of_ofText_eq_ok succeeded
  obtain ⟨conforms, _⟩ := parsed.derivation.lower_conforms fits
  exact conforms.speaks

/-- Running a program in any context breaks at most as many lines as its tree has `println` nodes,
and just as many if it ends with a value and the tree has no conditional. -/
theorem lineBreaks_of_run
    {source : String} {tree : Node}
    (accepted : Program.tree source = .ok tree) (context : Context) :
    ∃ outcome,
      Program.run source context = .ok outcome ∧
        outcome.written.toList.count '\n' ≤ tree.count .println ∧
        (tree.count .conditional = 0 →
          ∀ value, outcome.result = .ok value →
            outcome.written.toList.count '\n' = tree.count .println) := by
  have orderly := (tree_orderly accepted).unwrapped
  have speaks : (unwrapped tree).Speaks Node.Sayable := (tree_speaks accepted).unwrapped
  have printlns : (unwrapped tree).count .println = tree.count .println :=
    Node.count_unwrapped tree (by decide)
  have conditionals : (unwrapped tree).count .conditional = tree.count .conditional :=
    Node.count_unwrapped tree (by decide)
  have breaks := orderly.breaks speaks conditionals.trans context
  rw [printlns] at breaks
  exact ⟨_, run_of_tree_eq_ok accepted context, breaks.le, breaks.eq⟩

/-- A loop, a function and a call, in a context that is a line break itself: each of the three
`println` nodes breaks one line. -/
theorem lineBreaks_of_run_loop :
    ∃ (source : String) (tree : Node) (outcome : Outcome Value),
      source = "for i in [1, 2] \x7bprintln(i);\x7d fn f(x) \x7bprintln(x);\x7d println(f(1));" ∧
        Program.tree source = .ok tree ∧
        tree.count .println = 3 ∧
        tree.count .conditional = 0 ∧
        Program.run source (some (.text "\n")) = .ok outcome ∧
        outcome.written.toList.count '\n' = 3 := by
  have counts :
      (Program.tree
        "for i in [1, 2] \x7bprintln(i);\x7d fn f(x) \x7bprintln(x);\x7d println(f(1));"
      ).toOption.map (fun tree => (tree.count .println, tree.count .conditional)) =
        some (3, 0) := by
    decide +kernel
  have succeeds :
      (Program.run
        "for i in [1, 2] \x7bprintln(i);\x7d fn f(x) \x7bprintln(x);\x7d println(f(1));"
        (some (.text "\n"))).toOption.map (fun outcome => outcome.result.isOk) = some true := by
    decide +kernel
  cases accepted :
      Program.tree
        "for i in [1, 2] \x7bprintln(i);\x7d fn f(x) \x7bprintln(x);\x7d println(f(1));" with
  | error error =>
      rw [accepted] at counts
      cases counts
  | ok tree =>
      obtain ⟨outcome, ran, _, equal⟩ := lineBreaks_of_run accepted (some (.text "\n"))
      rw [accepted] at counts
      rw [ran] at succeeds
      obtain ⟨three, noConditional⟩ := Prod.mk.inj (Option.some.inj counts)
      cases ended : outcome.result with
      | error fault => simp [Except.toOption, ended, Except.isOk, Except.toBool] at succeeds
      | ok value =>
          have broken := (equal noConditional value ended).trans three
          exact ⟨_, tree, outcome, rfl, accepted, three, noConditional, ran, broken⟩

end Program

end Scriptlet
