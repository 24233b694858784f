import Radius.Number.Machine
import Radius.Value

/-!
# Packet headers

A header is a code, an identifier, the length of the whole packet in two bytes and sixteen bytes of
authenticator. `Header.ofValues` packs four values into one: the code and the identifier have to be
bytes and the length a number of two bytes, while an authenticator of another size is cut or filled
with zeros. A `FieldError` says which width a value does not fit.

`ofBytes_toBytes` : a header with an authenticator of the right size is read back as it is.
-/

namespace Radius

/-- Bytes of an authenticator. -/
def authenticatorSize : Nat := 16

/-- Why a value does not fit a field of fixed width. -/
inductive FieldError where
  | notInteger
  | notByte
  | notShort
  | notWord
  /-- Not even the widest machine integer holds the number. -/
  | outOfRange
  | notByteString
  deriving DecidableEq, Repr

/-- What is said of a value that does not fit a field. -/
def FieldError.message : FieldError → String
  | notInteger => "required argument is not an integer"
  | notByte => "ubyte format requires 0 <= number <= 255"
  | notShort => "'H' format requires 0 <= number <= 65535"
  | notWord => "'I' format requires 0 <= number <= 4294967295"
  | outOfRange => "argument out of range"
  | notByteString => "argument for 's' must be a bytes object"

namespace Value

/-- The value as a number of one byte. It is first taken as a signed machine integer. -/
def toByteField (v : Value) : Except FieldError Nat :=
  match v.toInteger? with
  | none => .error .notInteger
  | some n =>
    if !Machine.isSigned n then .error .outOfRange
    else if n < 0 || 256 ≤ n then .error .notByte
    else .ok n.toNat

/-- The value as a number below `bound`. It is first taken as an unsigned machine integer. -/
def toUnsignedField (bound : Nat) (tooLarge : FieldError) (v : Value) : Except FieldError Nat :=
  match v.toInteger? with
  | none => .error .notInteger
  | some n =>
    if !Machine.isUnsigned n then .error .outOfRange
    else if (bound : Int) ≤ n then .error tooLarge
    else .ok n.toNat

/-- The value as a number of two bytes. -/
def toShortField (v : Value) : Except FieldError Nat := v.toUnsignedField 65536 .notShort

/-- The value as a number of four bytes. -/
def toWordField (v : Value) : Except FieldError Nat := v.toUnsignedField 4294967296 .notWord

/-- The value as a byte string that is not a view. -/
def toBytesField : Value → Except FieldError Bytes
  | bytes b | buffer b => .ok b
  | _ => .error .notByteString

end Value

/-- The fixed part of a packet. -/
structure Header where
  code : UInt8
  identifier : UInt8
  length : Nat
  authenticator : Bytes
  deriving DecidableEq, Repr

namespace Header

/-- Bytes of a header. -/
def size : Nat := 20

/-- A header on the wire. The authenticator is cut or filled to its size. -/
def toBytes (h : Header) : Bytes :=
  h.code :: h.identifier :: (Bytes.be16 h.length ++ Bytes.fit authenticatorSize h.authenticator)

@[simp] theorem length_toBytes (h : Header) : h.toBytes.length = size := by
  simp [toBytes, Bytes.be16, authenticatorSize, size]

/-- The header at the front of a datagram, if that is long enough. -/
def ofBytes? : Bytes → Option Header
  | code :: identifier :: high :: low :: rest =>
    if rest.length < authenticatorSize then none
    else some ⟨code, identifier, Bytes.toNat [high, low], rest.take authenticatorSize⟩
  | _ => none

theorem ofBytes?_toBytes {h : Header} (hl : h.length < 65536)
    (ha : h.authenticator.length = authenticatorSize) (rest : Bytes) :
    ofBytes? (h.toBytes ++ rest) = some h := by
  have hb := Bytes.toNat_be16 hl
  simp only [Bytes.be16] at hb
  simp [toBytes, Bytes.be16, Bytes.fit_eq_self ha, ofBytes?, hb, ha]

/-- The header packed from four values, tried in order. -/
def ofValues (code identifier length authenticator : Value) : Except FieldError Header := do
  let c ← code.toByteField
  let i ← identifier.toByteField
  let n ← length.toShortField
  let a ← authenticator.toBytesField
  return ⟨UInt8.ofNat c, UInt8.ofNat i, n, a⟩

end Header

end Radius
