import Radius.Authenticator
import Radius.Packet

/-!
# The wire form of a packet

`Packet.encode` writes a packet: header, then attributes. A request of a code with a random
authenticator carries the packet's own; an accounting request carries the digest over zeros, and
every other packet, a response, the digest over the authenticator of the request it answers.

`Packet.decode` reads a datagram up to its length field and ignores what follows. The fixed form is
read first (`Frame.ofBytes`), then the digest is compared: with the authenticator of a request if
one is given, with zeros for an accounting request, and not at all otherwise.
-/

namespace Radius

/-- The largest packet. -/
def maxPacketSize : Nat := 4096

/-- What a datagram holds before its authenticator is looked at. -/
structure Frame where
  code : Code
  header : Header
  body : Bytes
  attributes : List Attribute

/-- The packet form of a datagram. Bytes after the length field's count are padding. -/
def Frame.ofBytes (data : Bytes) : Except DecodeError Frame :=
  match Header.ofBytes? data with
  | none => .error .tooShort
  | some header =>
    if header.length < Header.size || maxPacketSize < header.length then
      .error (.badLength header.length)
    else if data.length < header.length then .error .truncated
    else match Code.ofNumber? header.code.toNat with
      | none => .error (.unknownCode header.code)
      | some code =>
        let body := (data.take header.length).drop Header.size
        match Attribute.decode body with
        | .error why => .error (.attributes why)
        | .ok attributes => .ok ⟨code, header, body, attributes⟩

namespace Packet

/-- The wire form of one attribute of any kind. -/
def encodeAttribute (item : Value) : Except PacketError Bytes := do
  let (type, value) ← item.unpair
  match value.toBytes? with
  | none => throw (.encode (.valueKind type value.kind))
  | some bytes => match type.toInteger? with
    | none => throw (.encode (.typeRange type))
    | some t =>
      if t < 1 || 255 < t then throw (.encode (.typeRange type))
      else if Attribute.maxValueSize < bytes.length then
        throw (.encode (.valueTooLarge type bytes.length))
      else return Attribute.toBytes ⟨UInt8.ofNat t.toNat, bytes⟩

/-- The wire form of the items of an attribute list, one after the other. -/
def encodeItems : List Value → Except PacketError Bytes
  | [] => .ok []
  | item :: rest => do
    let first ← encodeAttribute item
    return first ++ (← encodeItems rest)

/-- The authenticator that goes on the wire. -/
def wireAuthenticator (p : Packet) (code : Code) (length : Nat) (body : Bytes) :
    Except PacketError Value :=
  if code.hasRandomAuthenticator then .ok p.authenticator
  else
    let previous :=
      if code = .accountingRequest then .bytes (Bytes.zeros authenticatorSize)
      else p.authenticator
    (Authenticator.digestOf code.toValue p.identifier (.integer length) previous (.bytes body)
      p.secret).map .bytes

/-- The wire form of a packet. -/
def encode (p : Packet) : Except PacketError Bytes := do
  match p.code? with
  | none => throw (.encode (.unknownCode p.code))
  | some code =>
    if !(← p.identifier.within 0 255) then throw (.encode .identifierRange)
    if (← p.authenticator.length) ≠ authenticatorSize then throw (.encode .authenticatorSize)
    let body ← encodeItems (← p.attributes.items)
    let length := Header.size + body.length
    if maxPacketSize < length then throw (.encode (.packetTooLarge length))
    let authenticator ← p.wireAuthenticator code length body
    let header ← Header.ofValues code.toValue p.identifier (.integer length) authenticator
    return header.toBytes ++ body

/-- The authenticator field of an encoded packet, as it went on the wire. -/
def sentAuthenticator (data : Bytes) : Bytes := (data.drop 4).take authenticatorSize

/-- Compare the digest of a frame over a previous authenticator with the one it carries. -/
def verify (f : Frame) (previous : Value) (secret : Bytes) (mismatch : DecodeError) :
    Except PacketError Unit := do
  let expected ← Authenticator.digestOf f.code.toValue (.integer f.header.identifier.toNat)
    (.integer f.header.length) previous (.bytes f.body) (.bytes secret)
  if expected ≠ f.header.authenticator then throw (.decode mismatch)

/-- The packet of a frame, with the authenticator it is to hold. -/
def ofFrame (f : Frame) (secret : Bytes) (authenticator : Value) : Packet :=
  ⟨f.code.toValue, .integer f.header.identifier.toNat, .bytes secret, authenticator,
    attributeList (f.attributes.map fun a => (.integer a.type.toNat, .bytes a.value))⟩

/-- The packet in a datagram. A response holds the authenticator of the request it answers. -/
def decodeBytes (data secret : Bytes) (requestAuthenticator : Value) :
    Except PacketError Packet := do
  let f ← Frame.ofBytes data
  match requestAuthenticator with
  | .absent =>
    if f.code = .accountingRequest then
      verify f (.bytes (Bytes.zeros authenticatorSize)) secret .requestMismatch
    return ofFrame f secret (.bytes f.header.authenticator)
  | given =>
    verify f given secret .responseMismatch
    return ofFrame f secret given

/-- The packet in data of any kind. -/
def decode (data secret requestAuthenticator : Value) : Except PacketError Packet := do
  let secret ← secret.toSecret
  if (← data.length) < Header.size then throw (.decode .tooShort)
  match data.toBytes? with
  | none => throw (.operand (.notBuffer data.kind))
  | some bytes => decodeBytes bytes secret requestAuthenticator

end Packet

end Radius
