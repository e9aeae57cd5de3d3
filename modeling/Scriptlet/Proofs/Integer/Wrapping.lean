import Scriptlet.Integer

/-!
# Wrapping

Wrapped numbers are in range, and numbers in range wrap to themselves. Division wraps its results,
so a quotient and a remainder are in range whatever is divided.
-/

namespace Scriptlet.Integer

/-- A number that the width can hold. -/
def InRange (number : Int) : Prop :=
  least ≤ number ∧ number ≤ greatest

instance (number : Int) : Decidable (InRange number) :=
  inferInstanceAs (Decidable (_ ∧ _))

theorem least_le_wrap (number : Int) : least ≤ wrap number := by
  exact Int.le_bmod (by decide)

theorem wrap_le_greatest (number : Int) : wrap number ≤ greatest := by
  exact Int.le_of_lt_add_one (Int.bmod_lt (by decide))

theorem inRange_wrap (number : Int) : InRange (wrap number) :=
  ⟨least_le_wrap number, wrap_le_greatest number⟩

theorem wrap_eq_self
    {number : Int}
    (lower : least ≤ number)
    (upper : number ≤ greatest) :
    wrap number = number := by
  unfold wrap
  unfold least at lower
  unfold greatest at upper
  apply Int.bmod_eq_of_le
  · simpa [width] using lower
  · simp [width]
    omega

theorem eq_wrap_of_divMod?
    {dividend divisor quotient remainder : Int}
    (divided : divMod? dividend divisor = some (quotient, remainder)) :
    quotient = wrap (dividend.tdiv divisor) ∧
      remainder = wrap (dividend - dividend.tdiv divisor * divisor) := by
  unfold divMod? at divided
  split at divided
  · cases divided
  · cases divided
    exact ⟨rfl, rfl⟩

end Scriptlet.Integer
