import Radius.Address.IPv4
import Radius.Attribute
import Radius.Header
import Radius.Value.Operand

/-!
# Errors of packets

`EncodeError` holds the causes for which a packet has no wire form, `DecodeError` those for which a
datagram, or a value in a packet, is not what it is read as. An operation on a packet can also meet
a value whose kind does not fit; `PacketError` is any of these.
-/

namespace Radius

/-- Why a packet, or a value on its way into one, cannot be encoded. -/
inductive EncodeError where
  | unknownCode (code : Value)
  | identifierRange
  | authenticatorSize
  | valueKind (type : Value) (kind : Kind)
  | typeRange (type : Value)
  | valueTooLarge (type : Value) (size : Nat)
  | packetTooLarge (size : Nat)
  | passwordTooLong
  | integerField (type : Value) (why : FieldError)

/-- What is said of a packet, or a value, that cannot be encoded. What is named is a value, so that
it has a text (`Value.plain`). -/
def EncodeError.message : EncodeError → String
  | unknownCode c => "unknown packet code " ++ c.plain
  | identifierRange => "identifier must fit in a byte"
  | authenticatorSize => "authenticator must be 16 bytes"
  | valueKind t k => "attribute " ++ t.plain ++ " value must be bytes, got " ++ k.name
  | typeRange t => "attribute type " ++ t.plain ++ " must be in 1..255"
  | valueTooLarge t n => "attribute " ++ t.plain ++ " value too large (" ++ toString n ++ " bytes)"
  | packetTooLarge n => "packet too large (" ++ toString n ++ " bytes)"
  | passwordTooLong => "password too long"
  | integerField t why => "attribute " ++ t.plain ++ ": " ++ why.message

/-- Why a datagram is no packet, or a value in a packet not of the form asked for. -/
inductive DecodeError where
  | tooShort
  | badLength (length : Nat)
  | truncated
  | unknownCode (code : UInt8)
  | attributes (why : Attribute.SequenceError)
  | responseMismatch
  | requestMismatch
  | notInteger (type : Value)
  | notAddress (type : Value)
  | passwordSize

/-- What is said of a datagram, or a value, that cannot be decoded. -/
def DecodeError.message : DecodeError → String
  | tooShort => "packet too short"
  | badLength n => "bad length field " ++ toString n
  | truncated => "packet truncated"
  | unknownCode c => "unknown packet code " ++ toString c.toNat
  | attributes why => why.message
  | responseMismatch => "response authenticator mismatch"
  | requestMismatch => "request authenticator mismatch"
  | notInteger t => "attribute " ++ t.plain ++ " is not a 32-bit integer"
  | notAddress t => "attribute " ++ t.plain ++ " is not an IPv4 address"
  | passwordSize => "User-Password length is not a multiple of 16"

/-- Why an operation on a packet fails. -/
inductive PacketError where
  | encode (why : EncodeError)
  | decode (why : DecodeError)
  | field (why : FieldError)
  | operand (why : OperandError)
  | address (why : AddressError)

/-- What is said of an operation on a packet that fails. -/
def PacketError.message : PacketError → String
  | encode why => why.message
  | decode why => why.message
  | field why => why.message
  | operand why => why.message
  | address why => why.message

instance : MonadLift (Except EncodeError) (Except PacketError) := ⟨Except.mapError .encode⟩
instance : MonadLift (Except DecodeError) (Except PacketError) := ⟨Except.mapError .decode⟩
instance : MonadLift (Except FieldError) (Except PacketError) := ⟨Except.mapError .field⟩
instance : MonadLift (Except OperandError) (Except PacketError) := ⟨Except.mapError .operand⟩
instance : MonadLift (Except AddressError) (Except PacketError) := ⟨Except.mapError .address⟩

end Radius
