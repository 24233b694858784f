import Mathlib.Tactic.IntervalCases
import Radius.Text.Utf8

/-!
# Texts read back from UTF-8

What a text is encoded to is decoded to the text (`Text.Utf8.decode_encode`).

A character is written in one to four bytes. The first byte says how many follow and in which range
the second one lies (`lead?_two`, `lead?_three`, `lead?_four`); each byte that follows gives six
bits of the code point (`following_cons`), and a character is never a surrogate, so all of them are
in their ranges (`first_encodeChar`).
-/

namespace Radius.Text.Utf8

/-! ## The first byte -/

theorem lead?_two {k : Nat} (hlow : 2 ≤ k) (hhigh : k < 32) :
    lead? (UInt8.ofNat (k + 0xc0)) = some ⟨1, 0x80, 0xbf, k⟩ := by
  interval_cases k <;> rfl

theorem lead?_three {k : Nat} (h : k < 16) :
    lead? (UInt8.ofNat (k + 0xe0)) =
      some ⟨2, if k = 0 then 0xa0 else 0x80, if k = 13 then 0x9f else 0xbf, k⟩ := by
  interval_cases k <;> rfl

theorem lead?_four {k : Nat} (h : k < 5) :
    lead? (UInt8.ofNat (k + 0xf0)) =
      some ⟨3, if k = 0 then 0x90 else 0x80, if k = 4 then 0x8f else 0xbf, k⟩ := by
  interval_cases k <;> rfl

/-- A byte that asks for more begins the character that is read off the following ones. -/
theorem first_of_lead {k n bits code : Nat} {low high : UInt8} {rest : Bytes} (hlow : 128 ≤ k)
    (hhigh : k < 256) (hlead : lead? (UInt8.ofNat k) = some ⟨n, low, high, bits⟩)
    (hrest : following n low high bits rest = (some code, n)) :
    first (UInt8.ofNat k) rest = (Char.ofNat code, n) := by
  have hbyte : (UInt8.ofNat k).toNat = k := UInt8.toNat_ofNat_of_lt hhigh
  have hmore : ¬UInt8.ofNat k < 0x80 := by
    rw [UInt8.lt_iff_toNat_lt, hbyte]
    exact Nat.not_lt.2 hlow
  rw [first, if_neg hmore, hlead]
  dsimp only
  rw [hrest]
  rfl

/-! ## The bytes that follow -/

theorem following_zero (low high : UInt8) (code : Nat) (rest : Bytes) :
    following 0 low high code rest = (some code, 0) := by
  cases rest <;> rfl

/-- A byte of six bits in its range adds them to the code point. -/
theorem following_cons {low high : UInt8} {m n code result : Nat} {rest : Bytes}
    (hlow : low.toNat ≤ m % 64 + 0x80) (hhigh : m % 64 + 0x80 ≤ high.toNat)
    (hrest : following n 0x80 0xbf (code * 64 + m % 64) rest = (some result, n)) :
    following (n + 1) low high code (UInt8.ofNat (m % 64 + 0x80) :: rest) =
      (some result, n + 1) := by
  have hbyte : (UInt8.ofNat (m % 64 + 0x80)).toNat = m % 64 + 0x80 :=
    UInt8.toNat_ofNat_of_lt (by simp only [UInt8.size]; omega)
  rw [following, if_pos]
  · rw [hbyte, Nat.add_sub_cancel, hrest]
  · simp only [UInt8.le_iff_toNat_le, hbyte, Bool.and_eq_true, decide_eq_true_eq]
    exact ⟨hlow, hhigh⟩

/-- A byte of six bits after the second one is always in its range. -/
theorem following_tail {m n code result : Nat} {rest : Bytes}
    (hrest : following n 0x80 0xbf (code * 64 + m % 64) rest = (some result, n)) :
    following (n + 1) 0x80 0xbf code (UInt8.ofNat (m % 64 + 0x80) :: rest) =
      (some result, n + 1) :=
  following_cons (by simp) (by simp; omega) hrest

/-! ## Characters -/

section Forms

variable (v : Nat) (rest : Bytes)

theorem first_one (h : v ≤ 0x7f) : first (UInt8.ofNat v) rest = (Char.ofNat v, 0) := by
  have hbyte : (UInt8.ofNat v).toNat = v :=
    UInt8.toNat_ofNat_of_lt (Nat.lt_of_le_of_lt h (by decide))
  rw [first, if_pos, hbyte]
  rw [UInt8.lt_iff_toNat_lt, hbyte]
  exact Nat.lt_succ_of_le h

theorem first_two (hlow : 0x7f < v) (hhigh : v ≤ 0x7ff) :
    first (UInt8.ofNat (v / 64 % 32 + 0xc0)) (UInt8.ofNat (v % 64 + 0x80) :: rest) =
      (Char.ofNat v, 1) := by
  have hcode : v / 64 % 32 * 64 + v % 64 = v := by omega
  refine first_of_lead (by omega) (by omega) (lead?_two (by omega) (by omega)) ?_
  refine following_tail ?_
  rw [hcode, following_zero]

/-- The second of three bytes excludes the shorter forms and the surrogates. -/
theorem first_three (hlow : 0x7ff < v) (hhigh : v ≤ 0xffff) (hvalid : v < 0xd800 ∨ 0xdfff < v) :
    first (UInt8.ofNat (v / 4096 % 16 + 0xe0))
        (UInt8.ofNat (v / 64 % 64 + 0x80) :: UInt8.ofNat (v % 64 + 0x80) :: rest) =
      (Char.ofNat v, 2) := by
  have hcode : (v / 4096 % 16 * 64 + v / 64 % 64) * 64 + v % 64 = v := by omega
  refine first_of_lead (by omega) (by omega) (lead?_three (by omega)) ?_
  refine following_cons ?_ ?_ (following_tail ?_)
  · by_cases h : v / 4096 % 16 = 0
    · rw [if_pos h]
      simp
      omega
    · rw [if_neg h]
      simp
  · by_cases h : v / 4096 % 16 = 13
    · rw [if_pos h]
      simp
      omega
    · rw [if_neg h]
      simp
      omega
  · rw [hcode, following_zero]

/-- The second of four bytes excludes the shorter forms and what is above the last code point. -/
theorem first_four (hlow : 0xffff < v) (hhigh : v < 0x110000) :
    first (UInt8.ofNat (v / 262144 % 8 + 0xf0))
        (UInt8.ofNat (v / 4096 % 64 + 0x80) :: UInt8.ofNat (v / 64 % 64 + 0x80) ::
          UInt8.ofNat (v % 64 + 0x80) :: rest) = (Char.ofNat v, 3) := by
  have hcode : ((v / 262144 % 8 * 64 + v / 4096 % 64) * 64 + v / 64 % 64) * 64 + v % 64 = v := by
    omega
  refine first_of_lead (by omega) (by omega) (lead?_four (by omega)) ?_
  refine following_cons ?_ ?_ (following_tail (following_tail ?_))
  · by_cases h : v / 262144 % 8 = 0
    · rw [if_pos h]
      simp
      omega
    · rw [if_neg h]
      simp
  · by_cases h : v / 262144 % 8 = 4
    · rw [if_pos h]
      simp
      omega
    · rw [if_neg h]
      simp
      omega
  · rw [hcode, following_zero]

end Forms

/-- The bytes of a character are read as the character, and none after them. -/
theorem first_encodeChar (c : Char) (rest : Bytes) :
    ∃ b tail, String.utf8EncodeChar c = b :: tail ∧
      first b (tail ++ rest) = (c, tail.length) := by
  have hvalid : c.toNat < 0xd800 ∨ 0xdfff < c.toNat ∧ c.toNat < 0x110000 := c.valid
  have hchar := Char.ofNat_toNat c
  have hencode := String.utf8EncodeChar.eq_def c
  simp only [show c.val.toNat = c.toNat from rfl] at hencode
  generalize c.toNat = v at hvalid hchar hencode
  subst hchar
  rw [hencode]
  by_cases hone : v ≤ 0x7f
  · rw [if_pos hone]
    exact ⟨_, _, rfl, first_one v rest hone⟩
  rw [if_neg hone]
  by_cases htwo : v ≤ 0x7ff
  · rw [if_pos htwo]
    exact ⟨_, _, rfl, first_two v rest (Nat.not_le.1 hone) htwo⟩
  rw [if_neg htwo]
  by_cases hthree : v ≤ 0xffff
  · rw [if_pos hthree]
    exact ⟨_, _, rfl, first_three v rest (Nat.not_le.1 htwo) hthree (hvalid.imp_right And.left)⟩
  · rw [if_neg hthree]
    exact ⟨_, _, rfl, first_four v rest (Nat.not_le.1 hthree) (by omega)⟩

theorem decode_encodeChar (c : Char) (rest : Bytes) :
    decode (String.utf8EncodeChar c ++ rest) = c :: decode rest := by
  obtain ⟨b, tail, hencode, hfirst⟩ := first_encodeChar c rest
  rw [hencode, List.cons_append, decode, hfirst]
  dsimp only
  rw [List.drop_left]

/-- What a text is encoded to is decoded to the text. -/
theorem decode_encode (cs : List Char) : decode (encode cs) = cs := by
  induction cs with
  | nil => simp [encode, decode]
  | cons c rest ih =>
    rw [encode, List.flatMap_cons, decode_encodeChar, ← encode, ih]

end Radius.Text.Utf8
