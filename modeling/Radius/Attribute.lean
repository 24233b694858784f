import Radius.Bytes

/-!
# Attributes

An attribute is a type byte and a value. On the wire it is the type, the length of the whole
attribute in one byte, and the value (`Attribute.toBytes`); a packet body is a sequence of
attributes (`encode`). `decode` reads a body: every length byte counts at least its own two header
bytes and stays inside the body.

`decode_encode` : a sequence whose values fit their length byte is read back as it is.
-/

namespace Radius

/-- An attribute of a packet: a type byte and the bytes of its value. -/
structure Attribute where
  type : UInt8
  value : Bytes
  deriving DecidableEq, Repr

namespace Attribute

/-- Bytes before the value of an attribute. -/
def headerSize : Nat := 2

/-- The longest value the length byte can count. -/
def maxValueSize : Nat := 253

/-- Why a body is no sequence of attributes. -/
inductive SequenceError where
  | truncatedHeader
  | badLength (length : UInt8) (type : UInt8)
  | overrun (type : UInt8)
  deriving DecidableEq, Repr

/-- What is said of a body that is no sequence of attributes. -/
def SequenceError.message : SequenceError → String
  | truncatedHeader => "truncated attribute header"
  | badLength n t => "bad length " ++ toString n.toNat ++ " for attribute " ++ toString t.toNat
  | overrun t => "attribute " ++ toString t.toNat ++ " overruns packet"

/-- An attribute on the wire. The length byte is that of a value which fits it. -/
def toBytes (a : Attribute) : Bytes :=
  a.type :: UInt8.ofNat (a.value.length + headerSize) :: a.value

/-- A sequence of attributes on the wire. -/
def encode (attributes : List Attribute) : Bytes := attributes.flatMap toBytes

/-- The attributes of a body, in order. -/
def decode : Bytes → Except SequenceError (List Attribute)
  | [] => .ok []
  | [_] => .error .truncatedHeader
  | type :: length :: rest =>
    if length < 2 then .error (.badLength length type)
    else if rest.length < length.toNat - headerSize then .error (.overrun type)
    else
      (decode (rest.drop (length.toNat - headerSize))).map
        (⟨type, rest.take (length.toNat - headerSize)⟩ :: ·)
termination_by body => body.length
decreasing_by simp only [List.length_drop, List.length_cons]; omega

theorem decode_encode {attributes : List Attribute}
    (h : ∀ a ∈ attributes, a.value.length ≤ maxValueSize) :
    decode (encode attributes) = .ok attributes := by
  induction attributes with
  | nil => simp [encode, decode]
  | cons a rest ih =>
    obtain ⟨type, value⟩ := a
    have hv : value.length ≤ 253 := h ⟨type, value⟩ (by simp)
    have ih := ih fun a ha => h a (by simp [ha])
    have hm : (value.length + 2) % 256 = value.length + 2 := Nat.mod_eq_of_lt (by omega)
    have hn : (UInt8.ofNat (value.length + 2)).toNat = value.length + 2 := by simp [hm]
    have h2 : ¬ UInt8.ofNat (value.length + 2) < 2 := by
      rw [UInt8.lt_iff_toNat_lt, hn]; simp
    simp only [encode, List.flatMap_cons, toBytes, headerSize, List.cons_append] at ih ⊢
    rw [decode, if_neg h2, if_neg]
    · simp [headerSize, hm, ih, Except.map]
    · simp [headerSize, hm]

end Attribute

end Radius
