import Scriptlet.Proofs.Evaluation.Outcome
import Scriptlet.Proofs.Integer.Wrapping
import Scriptlet.Proofs.Tree.Schema

/-!
# Values of evaluation

Which values evaluation can return. It hands on the context, and every other value is computed:
numbers fit the width because every operator wraps its result, and texts come from text nodes.
-/

namespace Scriptlet

/-- A value that the language makes itself: a number in range, or a text of the given ones. -/
def Value.Computed (spoken : String → Prop) : Value → Prop
  | null | bool _ => True
  | int number => Integer.least ≤ number ∧ number ≤ Integer.greatest
  | text content => spoken content
  | foreign _ => False

theorem Value.computed_wrap {spoken : String → Prop} (number : Int) :
    (Value.int (Integer.wrap number)).Computed spoken :=
  ⟨Integer.least_le_wrap number, Integer.wrap_le_greatest number⟩

/-! ## Values of outcomes -/

namespace Outcome

variable {α β : Type} {holds : α → Prop}

/-- If an outcome is a value, it has the property. -/
def Yields (holds : α → Prop) (outcome : Outcome α) : Prop :=
  ∀ result, outcome.result = .ok result → holds result

theorem yields_pure {result : α} (has : holds result) : (pure result : Outcome α).Yields holds := by
  intro found succeeded
  cases succeeded
  exact has

theorem yields_fail (fault : Fault) : (fail fault : Outcome α).Yields holds := by
  intro found succeeded
  cases succeeded

theorem yields_bind
    {first : Outcome β} {next : β → Outcome α}
    (nextYields : ∀ result, (next result).Yields holds) :
    (first >>= next).Yields holds := by
  intro found succeeded
  cases ended : first.result with
  | ok result =>
      rw [bind_eq_of_ok ended] at succeeded
      exact nextYields result found succeeded
  | error fault =>
      rw [bind_eq_of_error ended] at succeeded
      cases succeeded

end Outcome

namespace Node

/-- A tree whose text nodes have no other texts than the given ones. -/
def Speaks (spoken : String → Prop) : Node → Prop :=
  Everywhere fun node =>
    ∀ children payload, node = .branch (.kind .string) children payload →
      (textValue payload).Yields (·.Computed spoken)

variable {spoken : String → Prop} {returned : Value → Prop}

theorem numberValue_yields
    (computed : ∀ value : Value, value.Computed spoken → returned value)
    (payload : Option Payload) :
    (numberValue payload).Yields returned := by
  unfold numberValue
  split
  · exact Outcome.yields_pure (computed _ (Value.computed_wrap _))
  · split
    · exact Outcome.yields_pure (computed _ (Value.computed_wrap _))
    · exact Outcome.yields_fail _

theorem quotientValue_yields
    (computed : ∀ value : Value, value.Computed spoken → returned value)
    (dividend divisor : Int) :
    (quotientValue dividend divisor).Yields returned := by
  unfold quotientValue
  split
  · next quotient remainder divided =>
      obtain ⟨wrapped, _⟩ := Integer.eq_wrap_of_divMod? divided
      rw [wrapped]
      exact Outcome.yields_pure (computed _ (Value.computed_wrap _))
  · exact Outcome.yields_fail _

theorem remainderValue_yields
    (computed : ∀ value : Value, value.Computed spoken → returned value)
    (dividend divisor : Int) :
    (remainderValue dividend divisor).Yields returned := by
  unfold remainderValue
  split
  · next quotient remainder divided =>
      obtain ⟨_, wrapped⟩ := Integer.eq_wrap_of_divMod? divided
      rw [wrapped]
      exact Outcome.yields_pure (computed _ (Value.computed_wrap _))
  · exact Outcome.yields_fail _

theorem operands_yield
    {context : Context} {left right : Node} {next : Int → Int → Outcome Value}
    (nextYields : ∀ first second, (next first second).Yields returned) :
    (do
      let first ← (← evaluate context left).requireInt
      let second ← (← evaluate context right).requireInt
      next first second).Yields returned := by
  refine Outcome.yields_bind fun _ => ?_
  refine Outcome.yields_bind fun first => ?_
  refine Outcome.yields_bind fun _ => ?_
  exact Outcome.yields_bind fun second => nextYields first second

theorem branch_yields
    {context : Context} {kind : Kind} {children : List Node} {payload : Option Payload}
    (handsOn : returned (context.getD .null))
    (computed : ∀ value : Value, value.Computed spoken → returned value)
    (speaks : kind = .string → (textValue payload).Yields returned)
    (childrenYield : ∀ child ∈ children, (evaluate context child).Yields returned) :
    (evaluate context (.branch (.kind kind) children payload)).Yields returned := by
  have wrapped (number : Int) :
      (pure (.int (Integer.wrap number)) : Outcome Value).Yields returned :=
    Outcome.yields_pure (computed _ (Value.computed_wrap number))
  have decided (truth : Bool) : (pure (.bool truth) : Outcome Value).Yields returned :=
    Outcome.yields_pure (computed _ trivial)
  have nothing : (pure .null : Outcome Value).Yields returned :=
    Outcome.yields_pure (computed _ trivial)
  unfold evaluate
  split
  · exact Outcome.yields_bind fun _ => Outcome.yields_pure handsOn
  · next lineBreak _ =>
      refine Outcome.yields_bind fun _ => ?_
      cases lineBreak with
      | true => exact Outcome.yields_bind fun _ => nothing
      | false => exact nothing
  · exact numberValue_yields computed payload
  · next role =>
      have isString : kind = .string := by
        cases kind <;> first | rfl | cases role
      exact speaks isString
  · exact decided _
  · exact nothing
  · exact Outcome.yields_bind wrapped
  · split
    · exact operands_yield fun _ _ => wrapped _
    · exact Outcome.yields_fail _
  · split
    · exact operands_yield (quotientValue_yields computed)
    · exact Outcome.yields_fail _
  · split
    · exact operands_yield (remainderValue_yields computed)
    · exact Outcome.yields_fail _
  · split
    · exact Outcome.yields_bind fun _ => Outcome.yields_bind fun _ => wrapped _
    · exact Outcome.yields_fail _
  · split
    · exact childrenYield _ (List.mem_cons_self ..)
    · exact Outcome.yields_fail _
  · split
    · exact Outcome.yields_bind fun _ => Outcome.yields_bind fun _ => decided _
    · exact Outcome.yields_fail _
  · exact Outcome.yields_bind decided
  · exact Outcome.yields_bind decided
  · split
    · refine operands_yield fun _ _ => ?_
      unfold comparisonValue
      split <;> exact decided _
    · exact Outcome.yields_fail _
  · split
    · next condition chosen others =>
        refine Outcome.yields_bind fun _ => Outcome.yields_bind fun truth => ?_
        cases truth with
        | true => exact childrenYield chosen (by simp)
        | false =>
            cases others with
            | nil => exact nothing
            | cons alternative others =>
                by_cases sentinel : alternative.kind? = some .null
                · simpa [sentinel] using nothing
                · simpa [sentinel] using childrenYield alternative (by simp)
    · exact Outcome.yields_fail _

/-- Every tree returns its context or a value of its own making. -/
theorem evaluate_yields
    {node : Node}
    (speaks : node.Speaks spoken) (context : Context) :
    (evaluate context node).Yields fun value => context = some value ∨ value.Computed spoken := by
  induction speaks with
  | @intro node speaksHere _ inductionHypothesis =>
      cases node with
      | stray content =>
          rw [evaluate]
          exact Outcome.yields_fail _
      | branch label children payload =>
          cases label with
          | other name =>
              rw [evaluate]
              exact Outcome.yields_fail _
          | kind kind =>
              have handsOn :
                  context = some (context.getD .null) ∨
                    (context.getD .null).Computed spoken := by
                cases context with
                | none => exact .inr trivial
                | some value => exact .inl rfl
              have speaksText :
                  kind = .string →
                    (textValue payload).Yields
                      fun value => context = some value ∨ value.Computed spoken := by
                rintro rfl value returned
                exact .inr (speaksHere children payload rfl value returned)
              exact branch_yields handsOn (fun _ => .inr) speaksText inductionHypothesis

theorem textValue_quoted (content : List Char) :
    textValue (some (.scalar (.text (String.ofList ('"' :: (content ++ ['"'])))))) =
      pure (.text (String.ofList content)) := by
  have inside : unquoted ('"' :: (content ++ ['"'])) = content := by
    cases content with
    | nil => rfl
    | cons first others =>
        rw [List.cons_append, unquoted, ← List.cons_append, List.dropLast_concat]
  simp only [textValue, Payload.isWritable, Scalar.isWritable, if_true, Payload.plainOf,
    Payload.plain, Scalar.plain, String.toList_ofList, inside]
  rfl

/-- The texts that a text literal can hold. -/
def Sayable (content : String) : Prop :=
  ∀ c ∈ content.toList, Lexing.isTextChar c = true

theorem Conforms.speaks
    {node : Node}
    (conforms : node.Conforms) :
    node.Speaks Sayable := by
  refine conforms.mono fun node admissible children payload isString => ?_
  subst isString
  obtain ⟨text, rfl, fits⟩ := Kind.Admits.rule admissible
  obtain ⟨content, spelled, textChars⟩ := Lexing.mem_pattern_string_iff.1 fits
  rw [← String.ofList_toList (s := text), spelled, textValue_quoted]
  refine Outcome.yields_pure fun c member => ?_
  rw [String.toList_ofList] at member
  exact textChars c member

end Node

theorem Node.Everywhere.unwrapped
    {holds : Node → Prop} {node : Node}
    (everywhere : node.Everywhere holds) :
    (Program.unwrapped node).Everywhere holds := by
  unfold Program.unwrapped
  split
  · cases everywhere with
    | intro _ below => exact below _ (List.mem_cons_self ..)
  · exact everywhere

/-- A program without context returns null, a truth value, a number in range or a text that a
literal can hold. -/
theorem Program.computed_of_run
    {source : String} {outcome : Outcome Value} {value : Value}
    (ran : Program.run source none = .ok outcome)
    (returned : outcome.result = .ok value) :
    value.Computed Node.Sayable := by
  cases parsed : Parsed.ofText source with
  | error error =>
      rw [Program.run, Program.tree, parsed] at ran
      cases ran
  | ok result =>
      rw [Program.run, Program.tree, parsed] at ran
      cases ran
      obtain ⟨conforms, _⟩ :=
        result.derivation.lower_conforms (Parsed.fits_of_ofText_eq_ok parsed)
      have speaks : (Program.unwrapped (result.tree .compact)).Speaks Node.Sayable :=
        conforms.speaks.unwrapped
      rcases Node.evaluate_yields speaks none value returned with handedOn | computed
      · cases handedOn
      · exact computed

end Scriptlet
