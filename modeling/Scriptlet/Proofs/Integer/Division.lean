import Mathlib.Data.Rat.Floor
import Scriptlet.Proofs.Integer.Wrapping

/-!
# Division

Division yields the quotient rounded toward zero and the remainder that goes with it, each wrapped
on its own. Together they give the dividend back: up to wrapping for numbers of any size, and
exactly for numbers in range, except where the quotient overflows because the least number is
divided by minus one.
-/

namespace Scriptlet.Integer

/-! ## Rounding toward zero -/

/-- A rational number without its fraction. -/
def towardZero (number : ℚ) : Int :=
  if 0 ≤ number then ⌊number⌋ else ⌈number⌉

theorem towardZero_div_natCast (dividend : Int) {divisor : Nat} (positive : 0 < divisor) :
    towardZero ((dividend : ℚ) / divisor) = dividend.tdiv divisor := by
  have positiveCast : (0 : ℚ) < divisor := Nat.cast_pos.2 positive
  unfold towardZero
  by_cases nonnegative : 0 ≤ dividend
  · have quotientNonnegative : (0 : ℚ) ≤ dividend / divisor :=
      div_nonneg (Int.cast_nonneg nonnegative) positiveCast.le
    rw [if_pos quotientNonnegative, Rat.floor_intCast_div_natCast,
      Int.tdiv_eq_ediv_of_nonneg nonnegative]
  · have negated : 0 ≤ -dividend := by omega
    have quotientNegative : ¬ (0 : ℚ) ≤ dividend / divisor :=
      not_le.2 (div_neg_of_neg_of_pos (Int.cast_lt_zero.2 (by omega)) positiveCast)
    rw [if_neg quotientNegative, Rat.ceil_intCast_div_natCast,
      ← Int.tdiv_eq_ediv_of_nonneg negated, Int.neg_tdiv, Int.neg_neg]

/-- The quotient of the rationals, rounded toward zero. -/
theorem towardZero_div
    (dividend : Int) {divisor : Int}
    (nonzero : divisor ≠ 0) :
    towardZero ((dividend : ℚ) / divisor) = dividend.tdiv divisor := by
  have positive : 0 < divisor.natAbs := Int.natAbs_pos.2 nonzero
  rcases Int.natAbs_eq divisor with magnitude | magnitude
  · have rounded := towardZero_div_natCast dividend positive
    rw [magnitude]
    simpa using rounded
  · have rounded := towardZero_div_natCast (-dividend) positive
    rw [magnitude, Int.tdiv_neg, ← Int.neg_tdiv, ← rounded]
    simp [div_neg, neg_div]

/-! ## Quotient and remainder -/

theorem divMod?_eq_some
    (dividend : Int) {divisor : Int}
    (nonzero : divisor ≠ 0) :
    divMod? dividend divisor =
      some (wrap (dividend.tdiv divisor), wrap (dividend.tmod divisor)) := by
  rw [divMod?, if_neg nonzero, Int.tmod_def, Int.mul_comm divisor]

/-- Wrapping the quotient and the remainder does not matter to what they add up to. -/
theorem wrap_tdiv_mul_add_tmod (dividend divisor : Int) :
    wrap (wrap (dividend.tdiv divisor) * divisor + wrap (dividend.tmod divisor)) =
      wrap dividend := by
  unfold wrap
  calc
    _ = ((dividend.tdiv divisor).bmod _ * divisor + dividend.tmod divisor).bmod _ :=
      Int.add_bmod_bmod
    _ = (((dividend.tdiv divisor).bmod _ * divisor).bmod _ + dividend.tmod divisor).bmod _ :=
      Int.bmod_add_bmod.symm
    _ = ((dividend.tdiv divisor * divisor).bmod _ + dividend.tmod divisor).bmod _ := by
      rw [Int.bmod_mul_bmod]
    _ = (dividend.tdiv divisor * divisor + dividend.tmod divisor).bmod _ := Int.bmod_add_bmod
    _ = dividend.bmod _ := by rw [Int.tdiv_mul_add_tmod]

theorem natAbs_tmod_lt
    (dividend : Int) {divisor : Int}
    (nonzero : divisor ≠ 0) :
    (dividend.tmod divisor).natAbs < divisor.natAbs := by
  rw [Int.natAbs_tmod]
  exact Nat.mod_lt _ (Int.natAbs_pos.2 nonzero)

/-- A remainder is smaller than its divisor, so it is in range with it. -/
theorem inRange_tmod
    (dividend : Int) {divisor : Int}
    (nonzero : divisor ≠ 0)
    (divisorFits : InRange divisor) :
    InRange (dividend.tmod divisor) := by
  have smaller := natAbs_tmod_lt dividend nonzero
  unfold InRange least greatest at divisorFits ⊢
  omega

/-- Divisors other than one and minus one at least halve the magnitude of a number, and one keeps
it, so only the negation of the least number leaves the range. -/
theorem inRange_tdiv
    {dividend divisor : Int}
    (nonzero : divisor ≠ 0)
    (dividendFits : InRange dividend)
    (noOverflow : ¬ (dividend = least ∧ divisor = -1)) :
    InRange (dividend.tdiv divisor) := by
  unfold InRange least greatest at *
  by_cases isUnit : divisor.natAbs = 1
  · rcases Int.natAbs_eq_iff.1 isUnit with rfl | rfl
    · simpa using dividendFits
    · have negated : dividend.tdiv (-(1 : Nat)) = -dividend := by simp
      rw [negated]
      omega
  · have halved : (dividend.tdiv divisor).natAbs ≤ dividend.natAbs / 2 := by
      rw [Int.natAbs_tdiv]
      exact Nat.div_le_div_left (by omega) (by decide)
    omega

/-- The remainder has the sign of the dividend unless it is zero. -/
theorem tmod_eq_zero_or_sign_eq (dividend divisor : Int) :
    dividend.tmod divisor = 0 ∨ (dividend.tmod divisor).sign = dividend.sign := by
  have sign := Int.sign_tmod dividend divisor
  by_cases divides : divisor ∣ dividend
  · rw [if_pos divides] at sign
    exact .inl (Int.sign_eq_zero_iff_zero.1 sign)
  · rw [if_neg divides] at sign
    exact .inr sign

/-- Division by any number but zero yields a quotient and a remainder in range that give the
dividend back up to wrapping. For numbers in range they do so exactly, the remainder is smaller than
the divisor and has the sign of the dividend, and the quotient is the rational one rounded toward
zero. The single exception is the least number divided by minus one. -/
theorem division_reconstructs_dividend
    (dividend : Int) {divisor : Int}
    (nonzero : divisor ≠ 0) :
    ∃ quotient remainder,
      divMod? dividend divisor = some (quotient, remainder) ∧
        InRange quotient ∧
        InRange remainder ∧
        wrap (quotient * divisor + remainder) = wrap dividend ∧
        (InRange dividend → InRange divisor →
          |remainder| < |divisor| ∧
            (remainder = 0 ∨ remainder.sign = dividend.sign) ∧
            if dividend = least ∧ divisor = -1 then
              quotient = least ∧ remainder = 0
            else
              quotient * divisor + remainder = dividend ∧
                quotient = towardZero ((dividend : ℚ) / divisor)) := by
  refine ⟨_, _, divMod?_eq_some dividend nonzero, inRange_wrap _, inRange_wrap _,
    wrap_tdiv_mul_add_tmod dividend divisor, fun dividendFits divisorFits => ?_⟩
  obtain ⟨lower, upper⟩ := inRange_tmod dividend nonzero divisorFits
  rw [wrap_eq_self lower upper]
  refine ⟨?_, tmod_eq_zero_or_sign_eq dividend divisor, ?_⟩
  · rw [Int.abs_eq_natAbs, Int.abs_eq_natAbs]
    exact Int.ofNat_lt.2 (natAbs_tmod_lt dividend nonzero)
  · split
    · next overflow =>
        obtain ⟨rfl, rfl⟩ := overflow
        decide
    · next noOverflow =>
        obtain ⟨quotientLower, quotientUpper⟩ := inRange_tdiv nonzero dividendFits noOverflow
        rw [wrap_eq_self quotientLower quotientUpper]
        exact ⟨Int.tdiv_mul_add_tmod dividend divisor, (towardZero_div dividend nonzero).symm⟩

/-- The quotient that overflows. -/
theorem division_reconstructs_least :
    (-1 : Int) ≠ 0 ∧ InRange least ∧ InRange (-1) ∧ divMod? least (-1) = some (least, 0) := by
  have leastFits : InRange least := by decide
  have divisorFits : InRange (-1) := by decide
  obtain ⟨quotient, remainder, divided, _, _, _, exactly⟩ :=
    division_reconstructs_dividend least (show (-1 : Int) ≠ 0 by decide)
  obtain ⟨_, _, overflowed⟩ := exactly leastFits divisorFits
  rw [if_pos ⟨rfl, rfl⟩] at overflowed
  obtain ⟨rfl, rfl⟩ := overflowed
  exact ⟨by decide, leastFits, divisorFits, divided⟩

end Scriptlet.Integer
