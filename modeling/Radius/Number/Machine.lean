/-!
# Machine integers

Machine integers have 64 bits. A signed one lies from `-2 ^ 63` to below `2 ^ 63`, an unsigned one
from zero to below `2 ^ 64`.
-/

namespace Radius.Machine

/-- The number of signed machine integers from zero on, `2 ^ 63`. -/
def signedBound : Nat := 1 <<< 63

/-- The number of unsigned machine integers, `2 ^ 64`. -/
def unsignedBound : Nat := 1 <<< 64

/-- Whether a number is a signed machine integer. -/
def isSigned (n : Int) : Bool := decide (-(signedBound : Int) ≤ n ∧ n < (signedBound : Int))

/-- Whether a number is an unsigned machine integer. -/
def isUnsigned (n : Int) : Bool := decide (0 ≤ n ∧ n < (unsignedBound : Int))

theorem isSigned_iff {n : Int} :
    isSigned n = true ↔ -9223372036854775808 ≤ n ∧ n < 9223372036854775808 := by
  exact decide_eq_true_iff

theorem isUnsigned_iff {n : Int} : isUnsigned n = true ↔ 0 ≤ n ∧ n < 18446744073709551616 := by
  exact decide_eq_true_iff

end Radius.Machine
