import Mathlib.Data.List.Forall2
import Radius.Code
import Radius.Value.Operand

/-!
# Values that hold integers and byte strings

An integer equals the values that are its number, whole doubles among them (`Value.same_integer`),
and a byte string equals the byte strings of any kind that hold its bytes (`Value.same_bytes_iff`).
A value has the code whose number it equals (`Code.same_of_ofValue?`).
-/

namespace Radius

namespace Value

/-- A byte string that may be missing, as the value a caller gives or gets. -/
def ofBytes? : Option Bytes → Value
  | none => .absent
  | some b => .bytes b

theorem ofBytes?_injective {b c : Option Bytes} (h : ofBytes? b = ofBytes? c) : b = c := by
  cases b <;> cases c <;> simp_all [ofBytes?]

/-- An integer is compared with a range as the number it is. -/
theorem within_of_toInteger? {v : Value} {n : Int} (h : v.toInteger? = some n) (low high : Int) :
    v.within low high = .ok (decide (low ≤ n && n ≤ high)) := by
  cases v <;> simp_all [toInteger?, within]

/-- A number of one byte is in its range. -/
theorem within_of_byte {v : Value} {n : UInt8} (h : v.toInteger? = some (n.toNat : Int)) :
    v.within 0 255 = .ok true := by
  have hhigh : (n.toNat : Int) ≤ 255 := Int.ofNat_le.2 (Nat.le_of_lt_succ n.toNat_lt)
  rw [within_of_toInteger? h]
  simp [hhigh]

/-- A value is an integer from `low` to `high`. -/
def IsBetween (low high : Int) (v : Value) : Prop :=
  ∃ n, v.toInteger? = some n ∧ low ≤ n ∧ n ≤ high

theorem within_eq_true_iff {v : Value} {n : Int} (h : v.toInteger? = some n) {low high : Int} :
    v.within low high = .ok true ↔ v.IsBetween low high := by
  rw [within_of_toInteger? h, IsBetween]
  simp [h]

/-- What lies in a range is a double or an integer of the range. -/
theorem real_or_isBetween_of_within {v : Value} {low high : Int}
    (h : v.within low high = .ok true) : (∃ x, v = .real x) ∨ v.IsBetween low high := by
  cases hn : v.toInteger? with
  | some n => exact .inr ((within_eq_true_iff hn).1 h)
  | none =>
    cases v with
    | real x => exact .inl ⟨x, rfl⟩
    | _ => simp_all [within, toInteger?]

/-- Every number can be compared with a range. -/
theorem within_of_isNumeric {v : Value} (h : v.isNumeric = true) (low high : Int) :
    ∃ inside, v.within low high = .ok inside := by
  cases v with
  | flag | integer | real => exact ⟨_, rfl⟩
  | absent | text | bytes | buffer | view | list | pair => cases h

theorem within_of_isNumeric_eq_false {v : Value} (h : v.isNumeric = false) (low high : Int) :
    v.within low high = .error (.noOrder "<=" .integer v.kind) := by
  cases v with
  | absent | text | bytes | buffer | view | list | pair => rfl
  | flag | integer | real => cases h

/-- An integer from zero to 255 is a byte. -/
theorem IsBetween.exists_byte {v : Value} {low high : Int} (h : v.IsBetween low high)
    (hlow : 0 ≤ low) (hhigh : high ≤ 255) :
    ∃ b : UInt8, v.toInteger? = some (b.toNat : Int) ∧ low ≤ b.toNat ∧ (b.toNat : Int) ≤ high := by
  obtain ⟨n, hn, hnlow, hnhigh⟩ := h
  have hlt : n.toNat < 256 := by omega
  have hbyte : (UInt8.ofNat n.toNat).toNat = n.toNat := UInt8.toNat_ofNat_of_lt hlt
  refine ⟨UInt8.ofNat n.toNat, ?_, ?_, ?_⟩
  · rw [hn, hbyte, Int.toNat_of_nonneg (by omega)]
  · omega
  · omega

theorem isBetween_of_ne_zero {t : UInt8} (h : t ≠ 0) : (integer t.toNat).IsBetween 1 255 := by
  have hzero : t.toNat ≠ 0 := fun hzero => h (UInt8.toNat_inj.1 hzero)
  have hlt := t.toNat_lt
  exact ⟨_, rfl, by omega, by omega⟩

/-- How many bytes a byte string of any kind holds. -/
def byteCount (v : Value) : Nat := (v.toBytes?.getD []).length

theorem byteCount_of_toBytes? {v : Value} {b : Bytes} (h : v.toBytes? = some b) :
    v.byteCount = b.length := by
  rw [byteCount, h]
  rfl

theorem isNumber_of_toInteger? {v : Value} {n : Int} (h : v.toInteger? = some n) :
    v.isNumber n = true := by
  cases v <;> simp_all [toInteger?, isNumber]

theorem isNumber_iff_of_toInteger? {v : Value} {n : Int} (h : v.toInteger? = some n) (m : Int) :
    v.isNumber m = true ↔ n = m := by
  cases v <;> simp_all [toInteger?, isNumber]

theorem same_integer (n : Int) (v : Value) : (integer n).same v = v.isNumber n := by
  cases v <;> simp [same, toBytes?, sameNumber, toInteger?, isNumber]

/-- A value that is an integer equals the integer it is. -/
theorem same_integer_of_toInteger? {v : Value} {m : Int} (h : v.toInteger? = some m) (n : Int) :
    v.same (integer n) = decide (m = n) := by
  cases v <;> simp_all [toInteger?, same, toBytes?, sameNumber, isNumber]
  all_goals rw [Bool.beq_eq_decide_eq, decide_eq_decide, eq_comm]

/-- A value that is an integer is compared as the integer. -/
theorem same_of_toInteger? {v : Value} {n : Int} (h : v.toInteger? = some n) (w : Value) :
    v.same w = (integer n).same w := by
  cases v with
  | flag b =>
    obtain rfl := Option.some.inj h
    cases w <;> rfl
  | integer m =>
    obtain rfl := Option.some.inj h
    rfl
  | _ => cases h

theorem same_bytes_iff {b : Bytes} {v : Value} :
    (bytes b).same v = true ↔ v.toBytes? = some b := by
  cases v with
  | bytes c | buffer c | view c => simpa [same, toBytes?] using eq_comm
  | _ => simp [same, toBytes?]

theorem same_bytes_of_eq {b : Bytes} {v : Value} (h : v = bytes b) : (bytes b).same v = true := by
  rw [h]
  exact same_bytes_iff.2 rfl

theorem same_bytes_right_iff {b : Bytes} {v : Value} :
    v.same (bytes b) = true ↔ v.toBytes? = some b := by
  cases v <;> simp [same, toBytes?]

/-- A byte string of any kind is a secret as it is. -/
theorem toSecret_of_toBytes? {b : Bytes} {v : Value} (h : v.toBytes? = some b) :
    v.toSecret = .ok b := by
  cases v <;> simp_all [toBytes?, toSecret, toByteString]

/-- Lists are equal if their items are, one by one. -/
theorem sameList_of_forall₂ {xs ys : List Value}
    (h : List.Forall₂ (fun x y => x.same y = true) xs ys) : sameList xs ys = true := by
  induction h with
  | nil => rfl
  | cons hxy _ ih => rw [sameList, hxy, ih, Bool.and_self]

end Value

namespace Code

theorem ofValue?_toValue (c : Code) : ofValue? c.toValue = some c := by
  cases c <;> rfl

/-- An integer has the code whose number it is. -/
theorem ofValue?_eq_some_iff {v : Value} {n : Int} (h : v.toInteger? = some n) {c : Code} :
    ofValue? v = some c ↔ n = c.number := by
  constructor
  · intro hc
    have hnumber := List.find?_some (p := fun d : Code => v.isNumber d.number) hc
    exact (Value.isNumber_iff_of_toInteger? h _).1 hnumber
  · rintro rfl
    have hsame (d : Code) : v.isNumber d.number = c.toValue.isNumber d.number := by
      rw [Bool.eq_iff_iff, Value.isNumber_iff_of_toInteger? h, Value.isNumber_iff_of_toInteger? rfl]
    rw [← ofValue?_toValue c, ofValue?, ofValue?]
    simp only [hsame]

theorem same_of_ofValue? {v : Value} {c : Code} (h : ofValue? v = some c) :
    c.toValue.same v = true := by
  rw [toValue, Value.same_integer]
  exact List.find?_some (p := fun d : Code => v.isNumber d.number) h

end Code

end Radius
