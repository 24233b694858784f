import Radius.Address.IPv4
import Radius.Proofs.Except
import Radius.Proofs.Number.Digits

/-!
# IPv4 addresses have one text

A part of a dotted quad is read as a byte exactly if it is the decimal digits of the byte
(`IPv4.octet_eq_ok_iff`), so a text is read as an address exactly if it is the text of the address
(`IPv4.ofText_eq_ok_iff`), also where an address may be given in other ways
(`IPv4.ofValue_text_eq_ok_iff`).
-/

namespace Radius.IPv4

theorem isDigit_of_mem_octetText {b : UInt8} {c : Char} (h : c ∈ octetText b) :
    c.isDigit = true := Nat.isDigit_of_mem_toDigits (by decide) (by decide) h

/-- A part of a dotted quad is read as the byte whose digits it is. -/
theorem octet_eq_ok_iff {part : List Char} {b : UInt8} :
    octet part = .ok b ↔ part = octetText b := by
  constructor
  · fun_cases octet part with
    | case1 | case2 | case3 | case4 | case5 => simp
    | case6 hempty hdigits hlong hlead n hsize =>
      intro h
      obtain rfl := Except.ok.inj h
      have hbyte : (UInt8.ofNat n).toNat = n :=
        UInt8.toNat_ofNat_of_lt (Nat.lt_succ_of_le (Nat.not_lt.1 hsize))
      rw [octetText, hbyte, Numeral.toDigits_natOf]
      · simpa using hempty
      · simpa using hdigits
      · intro hzero
        simpa [hzero] using hlead
  · rintro rfl
    have hvalue : Numeral.natOf (octetText b) = b.toNat := Numeral.natOf_toDigits b.toNat
    have hempty : octetText b ≠ [] := Nat.toDigits_ne_nil
    have hdigits : (octetText b).all Char.isDigit = true :=
      List.all_eq_true.2 fun _ => isDigit_of_mem_octetText
    have hlong : (octetText b).length ≤ 3 :=
      (Nat.length_toDigits_le_iff (by decide) (by decide)).2 (Nat.lt_trans b.toNat_lt (by decide))
    have hlead : (octetText b).head? = some '0' → octetText b = ['0'] := by
      intro h
      rw [octetText, Numeral.eq_zero_of_head?_toDigits h]
      rfl
    have hsize := b.toNat_lt
    rw [octet, if_neg (by simpa using hempty), if_neg (by simp [hdigits]), if_neg (by omega),
      if_neg (by simpa using fun hne hzero => hne (hlead hzero))]
    dsimp only
    rw [hvalue, if_neg (by omega), UInt8.ofNat_toNat]

/-! ## Bytes of an address -/

/-- Four bytes are those of an address. -/
theorem exists_toBytes {b : Bytes} (h : b.length = 4) : ∃ x : IPv4, b = x.toBytes :=
  match b, h with
  | [a, b, c, d], _ => ⟨⟨a, b, c, d⟩, rfl⟩

/-! ## Dotted quads -/

/-- The parts of the text of an address. -/
def parts (x : IPv4) : List (List Char) :=
  [octetText x.a, octetText x.b, octetText x.c, octetText x.d]

theorem not_mem_parts {x : IPv4} {c : Char} (hc : c.isDigit = false) :
    ∀ part ∈ x.parts, c ∉ part := by
  have hoctet (b : UInt8) : c ∉ octetText b := fun h => by
    cases hc.symm.trans (isDigit_of_mem_octetText h)
  simp [parts, hoctet]

theorem toList_text (x : IPv4) : x.text.toList = Text.join '.' x.parts := String.toList_ofList

theorem text_ne_empty (x : IPv4) : ¬x.text.isEmpty = true := by
  have hfirst : octetText x.a ≠ [] := Nat.toDigits_ne_nil
  rw [String.isEmpty_iff, ← String.toList_eq_nil_iff, toList_text]
  simp [parts, Text.join, hfirst]

/-- The text of an address holds digits and points alone. -/
theorem not_mem_text {c : Char} (hc : c.isDigit = false) (hpoint : c ≠ '.') (x : IPv4) :
    c ∉ x.text.toList := by
  have hparts := @not_mem_parts x c hc
  rw [toList_text]
  simp only [parts, List.forall_mem_cons] at hparts
  simp [parts, Text.join, hparts, hpoint]

/-- A text is read as the address whose text it is. -/
theorem ofText_eq_ok_iff {s : String} {x : IPv4} : ofText s = .ok x ↔ s = x.text := by
  constructor
  · fun_cases ofText s with
    | case1 | case3 => simp
    | case2 hempty p q r t hsplit result =>
      intro h
      simp only [result, mapError_eq_ok_iff, bind_eq_ok_iff, octet_eq_ok_iff, pure_eq_ok,
        Except.ok.injEq] at h
      obtain ⟨a, rfl, b, rfl, c, rfl, d, rfl, rfl⟩ := h
      have hjoined := Text.join_split '.' s.toList
      rw [hsplit] at hjoined
      rw [text, hjoined, String.ofList_toList]
  · rintro rfl
    have hsplit : Text.split '.' x.text.toList = x.parts := by
      rw [toList_text, Text.split_join (by simp [parts]) (not_mem_parts rfl)]
    have hoctet (b : UInt8) : octet (octetText b) = .ok b := octet_eq_ok_iff.2 rfl
    rw [ofText, if_neg x.text_ne_empty, hsplit, parts]
    simp only [hoctet]
    rfl

/-- A text that is given for an address is read as the address whose text it is. -/
theorem ofValue_text_eq_ok_iff {s : String} {x : IPv4} :
    ofValue (.text s) = .ok x ↔ s = x.text := by
  have hvalue : ofValue (.text s) =
      if s.toList.contains '/' then .error (.slash (.text s)) else ofText s := rfl
  rw [hvalue]
  constructor
  · intro h
    by_cases hslash : s.toList.contains '/' = true
    · rw [if_pos hslash] at h
      cases h
    · rw [if_neg hslash] at h
      exact ofText_eq_ok_iff.1 h
  · rintro rfl
    have hslash : ¬x.text.toList.contains '/' = true := by
      simpa using not_mem_text (by decide) (by decide) x
    rw [if_neg hslash]
    exact ofText_eq_ok_iff.2 rfl

end Radius.IPv4
