import Radius.Packet.Wire
import Radius.Proofs.Except

/-!
# Headers read and written

A datagram of at least a header's size begins with one (`Header.ofBytes?_eq_none_iff`), and its
bytes are those of the header (`Header.ofBytes?_eq_some_iff`). The values packed into a header are
the numbers of its fields (`Header.ofValues_eq_ok_iff`).

The fields of a datagram are read at fixed places : the length field (`Datagram.lengthField`), the
authenticator (`Packet.sentAuthenticator`) and what the length field counts after the header
(`Datagram.body`).
-/

namespace Radius

namespace Bytes

theorem toNat_pair_lt (high low : UInt8) : toNat [high, low] < 65536 := by
  have := high.toNat_lt
  have := low.toNat_lt
  simp only [toNat, List.foldl_cons, List.foldl_nil]
  omega

/-- Two bytes are the big-endian form of the number they spell. -/
theorem be16_toNat (high low : UInt8) : be16 (toNat [high, low]) = [high, low] := by
  have hlow := low.toNat_lt
  have hdiv : (high.toNat * 256 + low.toNat) / 256 = high.toNat := by omega
  simp [be16, toNat, hdiv, UInt8.ofNat_add, UInt8.ofNat_mul]

end Bytes

/-! ## Values in fields -/

theorem Code.number_lt (c : Code) : c.number < 256 := by
  cases c <;> decide

/-- The number of a code fits its byte. -/
theorem Code.toNat_ofNat_number (c : Code) : (UInt8.ofNat c.number).toNat = c.number :=
  UInt8.toNat_ofNat_of_lt c.number_lt

theorem Code.number_injective {c d : Code} (h : c.number = d.number) : c = d := by
  have := Code.ofNumber?_number c
  rw [h, Code.ofNumber?_number] at this
  exact (Option.some.inj this).symm

/-- A byte field takes the integers of one byte. -/
theorem Value.toByteField_eq_ok_iff {v : Value} {n : Nat} :
    v.toByteField = .ok n ↔ v.toInteger? = some (n : Int) ∧ n < 256 := by
  unfold toByteField
  cases v.toInteger? with
  | none => simp
  | some m =>
    have hsigned := Machine.isSigned_iff (n := m)
    by_cases hs : Machine.isSigned m = true
    · by_cases hm : m < 0 ∨ 256 ≤ m
      · simp [hs, hm]
        omega
      · simp [hs, hm]
        omega
    · simp only [hs] at hsigned ⊢
      simp at hsigned ⊢
      omega

/-- A field of unsigned numbers takes those below its bound. -/
theorem Value.toUnsignedField_eq_ok_iff {bound : Nat} (hbound : bound ≤ 18446744073709551616)
    {tooLarge : FieldError} {v : Value} {n : Nat} :
    v.toUnsignedField bound tooLarge = .ok n ↔ v.toInteger? = some (n : Int) ∧ n < bound := by
  unfold toUnsignedField
  cases v.toInteger? with
  | none => simp
  | some m =>
    have hunsigned := Machine.isUnsigned_iff (n := m)
    by_cases hs : Machine.isUnsigned m = true
    · have hpos := (hunsigned.1 hs).1
      by_cases hm : (bound : Int) ≤ m
      · simp [hs, hm]
        omega
      · simp [hs, hm]
        omega
    · simp only [hs] at hunsigned ⊢
      simp at hunsigned ⊢
      omega

/-- A length field takes the numbers of two bytes. -/
theorem Value.toShortField_eq_ok_iff {n m : Nat} :
    (Value.integer n).toShortField = .ok m ↔ n < 65536 ∧ m = n := by
  rw [toShortField, toUnsignedField_eq_ok_iff (by decide), toInteger?, Option.some_inj,
    Int.natCast_inj]
  constructor
  · rintro ⟨rfl, hlt⟩
    exact ⟨hlt, rfl⟩
  · rintro ⟨hlt, rfl⟩
    exact ⟨rfl, hlt⟩

/-- A field of four bytes takes the numbers of four bytes. -/
theorem Value.toWordField_eq_ok_iff {v : Value} {n : Nat} :
    v.toWordField = .ok n ↔ v.toInteger? = some (n : Int) ∧ n < 4294967296 :=
  toUnsignedField_eq_ok_iff (by decide)

namespace Header

/-- A header is packed from a code and from values that are the numbers of its fields. -/
theorem ofValues_eq_ok_iff {c : Code} {identifier authenticator : Value} {n : Nat}
    {header : Header} :
    ofValues c.toValue identifier (.integer n) authenticator = .ok header ↔
      header.code.toNat = c.number ∧
        identifier.toInteger? = some (header.identifier.toNat : Int) ∧
        header.length = n ∧ n < 65536 ∧
        authenticator.toBytesField = .ok header.authenticator := by
  simp only [ofValues, Code.toValue, bind_eq_ok_iff, Value.toByteField_eq_ok_iff,
    Value.toShortField_eq_ok_iff]
  constructor
  · rintro ⟨k, ⟨hk, hklt⟩, i, ⟨hi, hilt⟩, m, ⟨hn, rfl⟩, bytes, hbytes, h⟩
    obtain rfl := Except.ok.inj h
    have hcode : k = c.number := (Int.ofNat_inj.1 (Option.some.inj hk)).symm
    have hbyte : (UInt8.ofNat i).toNat = i := UInt8.toNat_ofNat_of_lt hilt
    exact ⟨hcode ▸ c.toNat_ofNat_number, by rw [hbyte, hi], rfl, hn, hbytes⟩
  · rintro ⟨hcode, hi, hlength, hn, hbytes⟩
    refine ⟨c.number, ⟨rfl, c.number_lt⟩, _, ⟨hi, header.identifier.toNat_lt⟩, n, ⟨hn, rfl⟩,
      _, hbytes, ?_⟩
    have hnumber : UInt8.ofNat c.number = header.code := by rw [← hcode, UInt8.ofNat_toNat]
    rw [hnumber, UInt8.ofNat_toNat, ← hlength]
    rfl

end Header

/-! ## The fields of a datagram -/

namespace Datagram

/-- The length field of a datagram. -/
def lengthField (data : Bytes) : Nat := Bytes.toNat ((data.drop 2).take 2)

/-- The bytes after the header, up to the count of the length field. -/
def body (data : Bytes) : Bytes := (data.take (lengthField data)).drop Header.size

end Datagram

namespace Header

theorem ofBytes?_eq_none_iff {data : Bytes} : ofBytes? data = none ↔ data.length < size := by
  fun_cases ofBytes? data with
  | case1 code identifier high low rest h =>
    simp only [authenticatorSize, List.length_cons, size, true_iff] at h ⊢
    omega
  | case2 code identifier high low rest h =>
    simp only [authenticatorSize, List.length_cons, size, reduceCtorEq, false_iff] at h ⊢
    omega
  | case3 _ h =>
    rcases data with _ | ⟨code, _ | ⟨identifier, _ | ⟨high, _ | ⟨low, rest⟩⟩⟩⟩
    case cons.cons.cons.cons => exact (h code identifier high low rest rfl).elim
    all_goals simp [size]

/-- A header is read off a datagram that begins with its bytes. -/
theorem ofBytes?_eq_some_iff {data : Bytes} {header : Header} :
    ofBytes? data = some header ↔ header.length < 65536 ∧
      header.authenticator.length = authenticatorSize ∧ ∃ rest, data = header.toBytes ++ rest := by
  constructor
  · fun_cases ofBytes? data with
    | case1 | case3 => simp
    | case2 code identifier high low rest hsize =>
      intro h
      obtain rfl := (Option.some.inj h).symm
      have hauth : (rest.take authenticatorSize).length = authenticatorSize := by
        simp only [List.length_take]
        omega
      refine ⟨Bytes.toNat_pair_lt high low, hauth, rest.drop authenticatorSize, ?_⟩
      simp only [toBytes, Bytes.be16_toNat, Bytes.fit_eq_self hauth, List.cons_append,
        List.nil_append, List.take_append_drop]
  · rintro ⟨hlength, hauth, rest, rfl⟩
    exact ofBytes?_toBytes hlength hauth rest

section Fields

variable {data : Bytes} {header : Header} (h : ofBytes? data = some header)
include h

theorem size_le_of_ofBytes? : size ≤ data.length := by
  obtain ⟨-, -, rest, rfl⟩ := ofBytes?_eq_some_iff.1 h
  simp

theorem head?_of_ofBytes? : data.head? = some header.code := by
  obtain ⟨-, -, rest, rfl⟩ := ofBytes?_eq_some_iff.1 h
  rfl

theorem getElem?_one_of_ofBytes? : data[1]? = some header.identifier := by
  obtain ⟨-, -, rest, rfl⟩ := ofBytes?_eq_some_iff.1 h
  rfl

theorem lengthField_of_ofBytes? : Datagram.lengthField data = header.length := by
  obtain ⟨hlength, -, rest, rfl⟩ := ofBytes?_eq_some_iff.1 h
  exact Bytes.toNat_be16 hlength

theorem sentAuthenticator_of_ofBytes? : Packet.sentAuthenticator data = header.authenticator := by
  obtain ⟨-, hauth, rest, rfl⟩ := ofBytes?_eq_some_iff.1 h
  simp [Packet.sentAuthenticator, toBytes, Bytes.be16, Bytes.fit_eq_self hauth, hauth]

/-- The header of a datagram with another authenticator in the place of its own. -/
theorem toBytes_of_ofBytes? (authenticator : Bytes) :
    toBytes { header with authenticator } =
      data.take 4 ++ Bytes.fit authenticatorSize authenticator := by
  obtain ⟨-, -, rest, rfl⟩ := ofBytes?_eq_some_iff.1 h
  simp [toBytes, Bytes.be16]

end Fields

/-- The header is read off the first bytes alone. -/
theorem ofBytes?_take {data : Bytes} {n : Nat} (hn : size ≤ n) :
    ofBytes? (data.take n) = ofBytes? data := by
  cases h : ofBytes? data with
  | none =>
    rw [ofBytes?_eq_none_iff] at h ⊢
    simp only [List.length_take]
    omega
  | some header =>
    rw [ofBytes?_eq_some_iff] at h ⊢
    obtain ⟨hlength, hauth, rest, rfl⟩ := h
    refine ⟨hlength, hauth, rest.take (n - size), ?_⟩
    rw [List.take_append, List.take_of_length_le (by simpa using hn), length_toBytes]

end Header

end Radius
