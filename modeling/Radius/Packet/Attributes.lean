import Radius.Attribute.Dictionary
import Radius.Packet
import Radius.Password

/-!
# Attributes of a packet

Attributes are added at the end and looked up by type, the first one of a type wins. Texts are
stored in UTF-8, integers in four bytes, IPv4 addresses in their four bytes, and the password
hidden by the packet's secret and authenticator.

An addition that fails gives an error and no packet, so the packet is as it was.
-/

namespace Radius.Packet

/-! ## Adding -/

/-- Add a value of any kind, as a byte string. -/
def add (p : Packet) (type value : Value) : Except PacketError Packet := do
  match p.attributes with
  | .list items =>
    let bytes ← value.toByteString
    return { p with attributes := .list (items ++ [.pair type (.bytes bytes)]) }
  | .buffer _ =>
    let _ ← value.toByteString
    throw (.operand (.notInteger .pair))
  | v => throw (.operand (.noMember v.kind "append"))

/-- Add a text in UTF-8. -/
def addText (p : Packet) (type value : Value) : Except PacketError Packet :=
  match value with
  | .text s => p.add type (.bytes (Text.Utf8.encode s.toList))
  | v => .error (.operand (.noMember v.kind "encode"))

/-- Add an integer in four bytes. -/
def addInteger (p : Packet) (type value : Value) : Except PacketError Packet :=
  match value.toWordField with
  | .ok n => p.add type (.bytes (Bytes.be32 n))
  | .error why => .error (.encode (.integerField type why))

/-- Add an IPv4 address. -/
def addAddress (p : Packet) (type value : Value) : Except PacketError Packet := do
  p.add type (.bytes (← IPv4.ofValue value).toBytes)

/-- Add the hidden form of a password. -/
def addPassword (p : Packet) (password : Value) : Except PacketError Packet := do
  let bytes ← password.toSecret
  if Password.maxSize < bytes.length then throw (.encode .passwordTooLong)
  let hidden ← Password.chainOf .hide (.bytes (Password.padded bytes)) p.secret p.authenticator
  p.add (.integer Dictionary.userPassword) (.bytes hidden)

/-! ## Looking up -/

/-- The first value under a type in the items of an attribute list. -/
def firstOf (type : Value) : List Value → Except OperandError Value
  | [] => .ok .absent
  | item :: rest => do
    let (t, v) ← item.unpair
    if t.same type then return v
    firstOf type rest

/-- All values under a type in the items of an attribute list. -/
def allOf (type : Value) : List Value → Except OperandError (List Value)
  | [] => .ok []
  | item :: rest => do
    let (t, v) ← item.unpair
    let values ← allOf type rest
    return if t.same type then v :: values else values

/-- The first value under a type; nothing if there is none. -/
def get (p : Packet) (type : Value) : Except PacketError Value := do
  firstOf type (← p.attributes.items)

/-- All values under a type, in order. -/
def getAll (p : Packet) (type : Value) : Except PacketError (List Value) := do
  allOf type (← p.attributes.items)

/-- The first value under a type as a text. -/
def getText (p : Packet) (type : Value) : Except PacketError Value := do
  match ← p.get type with
  | .absent => return .absent
  | .bytes b | .buffer b => return .text (String.ofList (Text.Utf8.decode b))
  | v => throw (.operand (.noMember v.kind "decode"))

/-- The first value under a type as an integer of four bytes. -/
def getInteger (p : Packet) (type : Value) : Except PacketError Value := do
  match ← p.get type with
  | .absent => return .absent
  | v =>
    if (← v.length) ≠ 4 then throw (.decode (.notInteger type))
    match v.toBytes? with
    | some b => return .integer (Bytes.toNat b)
    | none => throw (.operand (.notBuffer v.kind))

/-- The first value under a type as the text of an IPv4 address. -/
def getAddress (p : Packet) (type : Value) : Except PacketError Value := do
  match ← p.get type with
  | .absent => return .absent
  | v =>
    if (← v.length) ≠ 4 then throw (.decode (.notAddress type))
    return .text (← IPv4.ofValue v).text

/-- The password without the zeros at its end. -/
def getPassword (p : Packet) : Except PacketError Value := do
  match ← p.get (.integer Dictionary.userPassword) with
  | .absent => return .absent
  | v =>
    if !v.isFilled then throw (.decode .passwordSize)
    if (← v.length) % Password.blockSize ≠ 0 then throw (.decode .passwordSize)
    let revealed ← Password.chainOf .reveal v p.secret p.authenticator
    return .bytes (Bytes.trimZeros revealed)

end Radius.Packet
