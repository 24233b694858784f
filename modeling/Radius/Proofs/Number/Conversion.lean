import Radius.Number.Binary64

/-!
# Integers as doubles

The double nearest an integer of at most 52 binary digits is finite (`Binary64.ofInt?_isSome`). Its
exponent field follows from the shift that leaves 53 digits before the point, and rounding adds at
most one to what is left.
-/

namespace Radius.Binary64

theorem roundHalfEven_le (num den : Nat) : roundHalfEven num den ≤ num / den + 1 := by
  rw [roundHalfEven]
  split
  · exact Nat.le_succ _
  · split
    · exact Nat.le_refl _
    · omega

/-- The shift of a rounding leaves at most 53 binary digits. -/
theorem shifted_lt (m : Nat) : m / (1 <<< (m.log2 - 52)) < 2 * implicitBit := by
  have hone : 1 <<< (m.log2 - 52) = 2 ^ (m.log2 - 52) := by rw [Nat.shiftLeft_eq, Nat.one_mul]
  have hbit : 2 * implicitBit = 2 ^ 53 := by decide
  rw [hone, hbit, Nat.div_lt_iff_lt_mul (Nat.two_pow_pos _), ← Nat.pow_add]
  refine Nat.lt_of_lt_of_le Nat.lt_log2_self (Nat.pow_le_pow_right (by decide) ?_)
  omega

/-- Bits below those of an infinity are those of a finite double. -/
theorem isFinite_withSign (negative : Bool) {rest : Nat} (h : rest < infinityBits) :
    (withSign negative rest).isFinite = true := by
  have hlimit : infinityBits = 9218868437227405312 := by decide
  have hsign : 1 <<< 63 = 9223372036854775808 := by decide
  rw [hlimit] at h
  have hfield : (withSign negative rest).exponentField ≠ 2047 := by
    rw [exponentField, withSign, UInt64.toNat_ofNat', Nat.shiftRight_eq_div_pow]
    cases negative with
    | false => rw [if_neg (by decide)]; omega
    | true => rw [if_pos rfl, hsign]; omega
  exact bne_iff_ne.2 hfield

theorem log2_lt_of_lt {m k : Nat} (hk : 0 < k) (h : m < 1 <<< k) : m.log2 < k := by
  by_cases hzero : m = 0
  · rwa [hzero]
  · rw [Nat.one_shiftLeft] at h
    exact (Nat.log2_lt hzero).2 h

/-- An integer of at most 52 binary digits is near a finite double. -/
theorem ofInt?_isSome {n : Int} (h : n.natAbs < implicitBit) : ∃ x, ofInt? n = some x := by
  let scaled := n.natAbs * unitsPerOne
  have hscaled : scaled < 1 <<< 1126 := by
    have hlimit : implicitBit * unitsPerOne = 1 <<< 1126 := by decide +kernel
    rw [← hlimit]
    exact Nat.mul_lt_mul_of_pos_right h (by decide +kernel)
  have hlog : scaled.log2 < 1126 := log2_lt_of_lt (by decide) hscaled
  have hbits : (scaled.log2 - 52) * implicitBit +
      roundHalfEven scaled (1 <<< (scaled.log2 - 52)) < infinityBits := by
    have hround := roundHalfEven_le scaled (1 <<< (scaled.log2 - 52))
    have hdigits := shifted_lt scaled
    have hshift : (scaled.log2 - 52) * implicitBit ≤ 1073 * implicitBit :=
      Nat.mul_le_mul_right _ (by omega)
    have hroom : 1073 * implicitBit + 2 * implicitBit < infinityBits := by decide
    omega
  have hratio : ofRatio (n < 0) n.natAbs 1 = withSign (n < 0) ((scaled.log2 - 52) * implicitBit +
      roundHalfEven scaled (1 <<< (scaled.log2 - 52))) := by
    rw [ofRatio]
    simp only [Nat.div_one]
    rw [Nat.min_eq_left (Nat.le_of_lt hbits)]
  refine ⟨_, if_pos ?_⟩
  rw [hratio]
  exact isFinite_withSign _ hbits

end Radius.Binary64
