import Radius.Packet.Attributes

/-!
# Packets changed in place

A packet that others hold too is changed in place. An edit ends with a value or an error, and leaves
a packet in both cases : what was written before an error stays written (`Packet.Edit`).

The additions of attributes are edits with one write, which puts a pair at the end of the attribute
list (`Edit.append`). What is given by the caller is converted before it. An `Insertion` is one of
them with its arguments, of any kind.
-/

namespace Radius.Packet

/-- An operation on a packet in place. -/
abbrev Edit : Type → Type := EStateM PacketError Packet

namespace Edit

/-- A computation that leaves the packet alone. -/
def compute {α : Type} (x : Except PacketError α) : Edit α := fun p =>
  match x with
  | .ok a => .ok a p
  | .error e => .error e p

instance : MonadLift (Except PacketError) Edit := ⟨compute⟩

/-- Look for the end of the attributes. Only a list and a buffer have one to put items at. -/
def seekEnd : Edit Unit := do
  match (← getThe Packet).attributes with
  | .list _ | .buffer _ => return ()
  | v => throw (.operand (.noMember v.kind "append"))

/-- Put an item at the end of the attributes. A buffer takes bytes alone. -/
def append (item : Value) : Edit Unit := do
  let p ← getThe Packet
  match p.attributes with
  | .list items => set { p with attributes := .list (items ++ [item]) }
  | .buffer _ => throw (.operand (.notInteger item.kind))
  | v => throw (.operand (.noMember v.kind "append"))

/-- Add a value of any kind, as a byte string. The end is looked for before the value is
converted. -/
def add (type value : Value) : Edit Unit := do
  seekEnd
  let bytes ← value.toByteString
  append (.pair type (.bytes bytes))

/-- Add a text in UTF-8. -/
def addText (type value : Value) : Edit Unit :=
  match value with
  | .text s => add type (.bytes (Text.Utf8.encode s.toList))
  | v => throw (.operand (.noMember v.kind "encode"))

/-- Add an integer in four bytes. An error of the field becomes one of the encoding; the packet is
left as it is found then. -/
def addInteger (type value : Value) : Edit Unit :=
  tryCatch
    (do
      let n ← value.toWordField
      add type (.bytes (Bytes.be32 n)))
    fun
      | .field why => throw (.encode (.integerField type why))
      | e => throw e

/-- Add an IPv4 address. -/
def addAddress (type value : Value) : Edit Unit := do
  let address ← IPv4.ofValue value
  add type (.bytes address.toBytes)

/-- Add the hidden form of a password. -/
def addPassword (password : Value) : Edit Unit := do
  let bytes ← password.toSecret
  if Password.maxSize < bytes.length then throw (.encode .passwordTooLong)
  let p ← getThe Packet
  let hidden ← Password.chainOf .hide (.bytes (Password.padded bytes)) p.secret p.authenticator
  add (.integer Dictionary.userPassword) (.bytes hidden)

end Edit

/-- An addition of an attribute, with what the caller gives for it. -/
inductive Insertion where
  | value (type value : Value)
  | text (type value : Value)
  | integer (type value : Value)
  | address (type value : Value)
  | password (value : Value)

namespace Insertion

/-- The type of the attribute. -/
def type : Insertion → Value
  | value t _ | text t _ | integer t _ | address t _ => t
  | password _ => .integer Dictionary.userPassword

/-- The addition in place. -/
def perform : Insertion → Edit Unit
  | value t v => Edit.add t v
  | text t v => Edit.addText t v
  | integer t v => Edit.addInteger t v
  | address t v => Edit.addAddress t v
  | password v => Edit.addPassword v

end Insertion

end Radius.Packet
