import Radius.Proofs.Packet.RoundTrip

/-!
# Packets of the right kinds

The fields of a packet can be of the right kinds and still not fit (`Packet.WellTyped`). Once they
have passed the checks of the encoding, the header and the authenticator for the wire can be made
(`Packet.Checked.ofValues_ok`, `Packet.Checked.wireAuthenticator_ok`). What is left to fail are the
attributes and the size of the whole.
-/

namespace Radius.Packet

/-- The code and the identifier are integers, the secret and the authenticator are byte strings, and
the attributes a list of pairs of any values. -/
structure WellTyped (p : Packet) : Prop where
  code : ∃ n, p.code.toInteger? = some n
  identifier : ∃ n, p.identifier.toInteger? = some n
  secret : ∃ key, p.secret = .bytes key
  authenticator : ∃ a, p.authenticator = .bytes a
  attributes : ∃ pairs, p.attributes = attributeList pairs

/-- An operation on a packet that fails, if at all, with an error of the encoding. -/
def Refuses {α : Type} (x : Except PacketError α) : Prop :=
  ∀ e, x = .error e → ∃ why, e = .encode why

section Checked

variable {p : Packet} {code : Code} {items : List Value} (h : p.Checked code items)
  (hp : p.WellTyped)
include h hp

/-- An integer that passes the check of the identifier fits its byte. -/
theorem Checked.identifier_fits : ∃ b : UInt8, p.identifier.toInteger? = some (b.toNat : Int) := by
  obtain ⟨n, hn⟩ := hp.identifier
  obtain ⟨b, hb, -⟩ :=
    ((Value.within_eq_true_iff hn).1 h.identifier).exists_byte (by decide) (by decide)
  exact ⟨b, hb⟩

/-- Fields of the right kinds are packed into a header. -/
theorem Checked.ofValues_ok {n : Nat} (hn : n < 65536) (a : Bytes) :
    ∃ header, Header.ofValues code.toValue p.identifier (.integer n) (.bytes a) = .ok header := by
  obtain ⟨b, hb⟩ := h.identifier_fits hp
  exact ⟨⟨UInt8.ofNat code.number, b, n, a⟩,
    Header.ofValues_eq_ok_iff.2 ⟨code.toNat_ofNat_number, hb, rfl, hn, rfl⟩⟩

/-- There is an authenticator for the wire. -/
theorem Checked.wireAuthenticator_ok {n : Nat} (hn : n < 65536) (body : Bytes) :
    ∃ bytes, p.wireAuthenticator code n body = .ok (.bytes bytes) := by
  obtain ⟨a, ha⟩ := hp.authenticator
  obtain ⟨key, hkey⟩ := hp.secret
  have hdigest (previous : Bytes) : ∃ bytes, Authenticator.digestOf code.toValue p.identifier
      (.integer n) (.bytes previous) (.bytes body) p.secret = .ok bytes := by
    obtain ⟨header, hheader⟩ := h.ofValues_ok hp hn previous
    rw [hkey]
    exact ⟨_, Authenticator.digestOf_bytes hheader body key⟩
  rw [wireAuthenticator]
  split
  · exact ⟨a, congrArg Except.ok ha⟩
  · dsimp only
    split
    · obtain ⟨bytes, hbytes⟩ := hdigest (Bytes.zeros authenticatorSize)
      exact ⟨bytes, by rw [hbytes]; rfl⟩
    · obtain ⟨bytes, hbytes⟩ := hdigest a
      exact ⟨bytes, by rw [ha, hbytes]; rfl⟩

end Checked

end Radius.Packet
