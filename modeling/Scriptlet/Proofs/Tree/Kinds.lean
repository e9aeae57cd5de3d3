import Scriptlet.Tree.Node

/-!
# Kinds

The table of kinds is complete, the name of a kind is a word of its own without any blank, and only
comparisons carry a relation.
-/

namespace Scriptlet.Kind

theorem mem_all (kind : Kind) : kind ∈ all := by
  cases kind with
  | marker relation => cases relation <;> decide
  | _ => decide

theorem mem_passThroughKinds {kind : Kind} :
    kind ∈ passThroughKinds ↔ kind.role = .passThrough := by
  simp [passThroughKinds, mem_all]

theorem name_injective : Function.Injective name := by
  have apart : ∀ left ∈ all, ∀ right ∈ all, left.name = right.name → left = right := by
    decide +kernel
  intro left right same
  exact apart left left.mem_all right right.mem_all same

theorem name_ne_nil (kind : Kind) : kind.name.toList ≠ [] := by
  have named : ∀ kind ∈ all, kind.name.toList ≠ [] := by decide +kernel
  exact named kind kind.mem_all

/-- No blank, tab or line break stands in a name. -/
theorem name_solid
    {kind : Kind} {c : Char}
    (member : c ∈ kind.name.toList) :
    c ∉ [' ', '\t', '\n'] := by
  have words :
      ∀ kind ∈ all, kind.name.toList.all (fun c => c.isLower || c == '_') = true := by
    decide +kernel
  have letter : (c.isLower || c == '_') = true :=
    List.all_eq_true.1 (words kind kind.mem_all) c member
  intro blank
  simp only [List.mem_cons, List.not_mem_nil, or_false] at blank
  rcases blank with rfl | rfl | rfl
  · exact absurd letter (by decide)
  · exact absurd letter (by decide)
  · exact absurd letter (by decide)

/-! ## Payloads -/

/-- The payloads that belong to a kind: a relation to a comparison, and a text, an integer or a
truth value to any other kind. A node of any kind may go without. -/
def Carries (kind : Kind) : Option Payload → Prop
  | none => True
  | some (.relation _) => kind = comparison
  | some (.scalar (.object _)) => False
  | some (.scalar _) => kind ≠ comparison

/-- The payloads that lowering gives to a kind: a relation to a comparison, and a text to any
other. -/
def Bears (kind : Kind) : Option Payload → Prop
  | none => True
  | some (.relation _) => kind = comparison
  | some (.scalar (.text _)) => kind ≠ comparison
  | some (.scalar _) => False

section

variable {kind : Kind} {payload : Option Payload}

theorem Bears.of_ne
    {other : Kind}
    (bears : kind.Bears payload)
    (notComparison : kind ≠ comparison)
    (otherwise : other ≠ comparison) :
    other.Bears payload := by
  match payload, bears with
  | none, _ => exact trivial
  | some (.scalar (.text _)), _ => exact otherwise
  | some (.relation _), isComparison => exact absurd isComparison notComparison

theorem Bears.carries
    (bears : kind.Bears payload) :
    kind.Carries payload := by
  match payload, bears with
  | none, _ => exact trivial
  | some (.scalar (.text _)), notComparison => exact notComparison
  | some (.relation _), isComparison => exact isComparison

theorem Bears.isWritable
    (bears : kind.Bears payload) :
    Payload.isWritable payload = true := by
  match payload, bears with
  | none, _ => rfl
  | some (.scalar (.text _)), _ => rfl
  | some (.relation _), _ => rfl

end

end Scriptlet.Kind
