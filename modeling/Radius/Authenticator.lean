import Radius.Hash.MD5
import Radius.Packet.Error

/-!
# Authenticators

The digest that ties a packet to a secret is the MD5 digest of a header, the body and the secret
(`Authenticator.digest`). The header holds the authenticator of the request that is answered, or
zeros where there is none. `digestOf` is the digest of fields as a caller gives them.
-/

namespace Radius.Authenticator

/-- The digest of a header, a body and a secret. -/
def digest (header : Header) (body secret : Bytes) : Bytes :=
  MD5.digest (header.toBytes ++ body ++ secret)

@[simp] theorem length_digest (header : Header) (body secret : Bytes) :
    (digest header body secret).length = authenticatorSize := by
  simp [digest, authenticatorSize]

/-- The digest of fields of any kind. The header fields are tried first, then the body and the
secret. -/
def digestOf (code identifier length authenticator body secret : Value) :
    Except PacketError Bytes := do
  let header ← Header.ofValues code identifier length authenticator
  let message ← (← (Value.bytes header.toBytes).append body).append secret
  return MD5.digest (← message.toHashInput)

theorem digestOf_bytes {code identifier length authenticator : Value} {header : Header}
    (h : Header.ofValues code identifier length authenticator = .ok header) (body secret : Bytes) :
    digestOf code identifier length authenticator (.bytes body) (.bytes secret) =
      .ok (digest header body secret) := by
  rw [digestOf, h]
  rfl

end Radius.Authenticator
