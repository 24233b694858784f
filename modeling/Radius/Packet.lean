import Radius.Code
import Radius.Packet.Error

/-!
# Packets

A packet holds a code, an identifier, a secret, an authenticator and a list of attributes, each a
pair of a type and a value. What a caller puts into the fields is checked only where it is used, so
the fields hold values of any kind; the secret alone is made a byte string when a packet is made.

A packet made without an authenticator gets a random one, and a new request a random identifier as
well. The random numbers come from outside (`Entropy`), and what is drawn is listed (`Draw`).
-/

namespace Radius

/-- The random numbers at hand for one packet. -/
structure Entropy where
  identifier : Nat
  authenticator : Bytes

/-- A random number taken. -/
inductive Draw where
  | identifier
  | authenticator
  deriving DecidableEq, Repr

/-- A packet, with whatever a caller put into its fields. -/
structure Packet where
  code : Value
  identifier : Value
  secret : Value
  authenticator : Value
  attributes : Value
  deriving Inhabited

namespace Packet

/-- Equality of packets, field by field. -/
def same (p q : Packet) : Bool :=
  p.code.same q.code && p.identifier.same q.identifier && p.secret.same q.secret &&
    p.authenticator.same q.authenticator && p.attributes.same q.attributes

/-- The code of a packet that has one. -/
def code? (p : Packet) : Option Code := Code.ofValue? p.code

/-- The attribute list of types and values. -/
def attributeList (attributes : List (Value × Value)) : Value :=
  .list (attributes.map fun a => .pair a.1 a.2)

/-- A packet of the given fields. -/
def create (code identifier secret authenticator : Value) (attributes : List (Value × Value))
    (entropy : Entropy) : Except OperandError (Packet × List Draw) := do
  let secret ← secret.toSecret
  let packet := ⟨code, identifier, .bytes secret, authenticator, attributeList attributes⟩
  return match authenticator with
    | .absent => ({ packet with authenticator := .bytes entropy.authenticator }, [.authenticator])
    | _ => (packet, [])

/-- A request with a random identifier and a random authenticator. -/
def newRequest (code secret : Value) (entropy : Entropy) :
    Except OperandError (Packet × List Draw) := do
  let (packet, draws) ← create code (.integer entropy.identifier) secret .absent [] entropy
  return (packet, .identifier :: draws)

/-- The response of the given code to a packet: its identifier, secret and authenticator, and no
attributes yet. -/
def makeResponse (p : Packet) (code : Value) (entropy : Entropy) :
    Except OperandError (Packet × List Draw) :=
  create code p.identifier p.secret p.authenticator [] entropy

end Packet

end Radius
