import Radius.Number.Numeral

/-!
# Decimal digits of a number

The digits of a number spell it (`Numeral.natOf_toDigits`), and begin with zero only if it is zero
(`Numeral.eq_zero_of_head?_toDigits`). Digits without a leading zero are the digits of the number
they spell (`Numeral.toDigits_natOf`), so no number is written in two ways.
-/

namespace Radius.Numeral

theorem natOf_toDigits (n : Nat) : natOf (Nat.toDigits 10 n) = n := Nat.ofDigitChars_ten_toDigits

/-- A digit is the one of the number it stands for. -/
theorem toDigits_isDigit {c : Char} (h : c.isDigit = true) :
    c.toNat - '0'.toNat < 10 ∧ Nat.toDigits 10 (c.toNat - '0'.toNat) = [c] := by
  obtain ⟨hlow, hhigh⟩ := Char.isDigit_iff_toNat.1 h
  have hzero : '0'.toNat = 48 := rfl
  have hnine : '9'.toNat = 57 := rfl
  have hlt : c.toNat - '0'.toNat < 10 := by omega
  refine ⟨hlt, ?_⟩
  rw [Nat.toDigits_of_lt_base hlt, List.singleton_inj, ← Char.toNat_inj,
    Nat.toNat_digitChar_of_lt_ten hlt]
  omega

/-- Digits after those of a number that is not zero are the last digits of a larger number. -/
theorem toDigits_append {n : Nat} {ds : List Char} (hpos : 0 < n)
    (h : ∀ c ∈ ds, c.isDigit = true) :
    Nat.toDigits 10 n ++ ds = Nat.toDigits 10 (Nat.ofDigitChars 10 ds n) := by
  induction ds generalizing n with
  | nil => exact List.append_nil _
  | cons c ds ih =>
    obtain ⟨hc, hds⟩ := List.forall_mem_cons.1 h
    obtain ⟨hlt, hdigit⟩ := toDigits_isDigit hc
    have hfirst := Nat.toDigits_append_toDigits (by decide) hpos hlt
    rw [hdigit] at hfirst
    rw [List.append_cons, hfirst, ih (by omega) hds, Nat.ofDigitChars_cons]

/-- Digits without a leading zero are those of the number they spell. -/
theorem toDigits_natOf {ds : List Char} (hne : ds ≠ []) (h : ∀ c ∈ ds, c.isDigit = true)
    (hlead : ds.head? = some '0' → ds = ['0']) : Nat.toDigits 10 (natOf ds) = ds := by
  obtain ⟨c, rest, rfl⟩ := List.exists_cons_of_ne_nil hne
  by_cases hzero : c = '0'
  · rw [hlead (by rw [hzero]; rfl)]
    rfl
  · obtain ⟨hc, hrest⟩ := List.forall_mem_cons.1 h
    obtain ⟨hlt, hdigit⟩ := toDigits_isDigit hc
    have hpos : 0 < c.toNat - '0'.toNat := by
      refine Nat.pos_of_ne_zero fun hnone => hzero ?_
      have hzeros := hdigit
      rw [hnone] at hzeros
      exact (List.singleton_inj.1 hzeros).symm
    have hvalue : natOf (c :: rest) = Nat.ofDigitChars 10 rest (c.toNat - '0'.toNat) := by
      rw [natOf, List.foldl_cons, Nat.mul_zero, Nat.zero_add]
      rfl
    rw [hvalue, ← toDigits_append hpos hrest, hdigit, List.singleton_append]

/-- Only zero is written with a zero at its front. -/
theorem eq_zero_of_head?_toDigits {n : Nat} (h : (Nat.toDigits 10 n).head? = some '0') : n = 0 := by
  induction n using Nat.strongRecOn with
  | ind n ih =>
    rw [Nat.toDigits_eq_if (by decide)] at h
    by_cases hlt : n < 10
    · rw [if_pos hlt] at h
      have hcode := congrArg Char.toNat (Option.some.inj h)
      rw [Nat.toNat_digitChar_of_lt_ten hlt] at hcode
      simpa using hcode
    · obtain ⟨d, ds, hds⟩ := List.exists_cons_of_ne_nil (@Nat.toDigits_ne_nil (n / 10) 10)
      rw [if_neg hlt, hds] at h
      have hquotient := ih (n / 10) (by omega) (by rw [hds]; exact h)
      omega

end Radius.Numeral
