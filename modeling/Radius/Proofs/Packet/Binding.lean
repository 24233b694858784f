import Radius.Proofs.Packet.Acceptance
import Radius.Proofs.Packet.RoundTrip

/-!
# What an authenticator binds

The authenticator of a response is the digest of one string (`Datagram.hashed`) : the code, the
identifier and the length field of the datagram, the authenticator of the request, the body and the
secret. The length field, which stands at the front, says where the body ends and the secret begins,
so two datagrams with the same string agree in all of it (`Frame.eq_of_hashed_eq`).

Two responses that are accepted with the same authenticator therefore agree, and so do the requests
they answer and the secrets, or their strings are a collision of the digest
(`Packet.authenticator_binds`). Nothing is assumed of the digest.
-/

namespace Radius

/-- Two strings that are a collision of the digest. -/
def MD5.Collision (x y : Bytes) : Prop := x ≠ y ∧ digest x = digest y

/-- The string that a response to the request with the authenticator `previous` is the digest of. -/
def Datagram.hashed (data previous secret : Bytes) : Bytes :=
  data.take 4 ++ Bytes.fit authenticatorSize previous ++ body data ++ secret

theorem Datagram.digest_eq (data previous secret : Bytes) :
    digest data previous secret = MD5.digest (hashed data previous secret) := rfl

namespace Frame

variable {data other : Bytes} {f g : Frame}

theorem length_take_four (h : ofBytes data = .ok f) : (data.take 4).length = 4 := by
  have hsize := Header.size_le_of_ofBytes? (header_of_ofBytes h)
  rw [Header.size] at hsize
  rw [List.length_take, Nat.min_eq_left (by omega)]

theorem length_body (h : ofBytes data = .ok f) :
    (Datagram.body data).length + Header.size = Datagram.lengthField data := by
  rw [body_of_ofBytes h, lengthField_of_ofBytes h, (sound_of_ofBytes h).length, Nat.add_comm]

/-- The bytes that the length field counts are the fields before the authenticator, the
authenticator and the body. -/
theorem take_eq (h : ofBytes data = .ok f) :
    data.take (Datagram.lengthField data) =
      data.take 4 ++ Packet.sentAuthenticator data ++ Datagram.body data := by
  have hheader := header_of_ofBytes h
  have hfit := Bytes.fit_eq_self (sound_of_ofBytes h).authenticator
  have hbytes := Header.toBytes_of_ofBytes? hheader f.header.authenticator
  rw [take_of_ofBytes h, toBytes, body_of_ofBytes h, Header.sentAuthenticator_of_ofBytes? hheader,
    ← hfit, ← hbytes]

/-- The string of a datagram that holds a frame can be taken apart again. -/
theorem eq_of_hashed_eq (hf : ofBytes data = .ok f) (hg : ofBytes other = .ok g)
    {a b key secret : Bytes} (h : Datagram.hashed data a key = Datagram.hashed other b secret) :
    data.take 4 = other.take 4 ∧ Bytes.fit authenticatorSize a = Bytes.fit authenticatorSize b ∧
      Datagram.body data = Datagram.body other ∧ key = secret := by
  simp only [Datagram.hashed, List.append_assoc] at h
  obtain ⟨hfields, h⟩ :=
    List.append_inj h ((length_take_four hf).trans (length_take_four hg).symm)
  obtain ⟨hprevious, h⟩ := List.append_inj h (by simp)
  -- The fields at the front hold the length field, so the bodies are of one length.
  have hlength := lengthField_eq_of_take_eq (Nat.le_refl 4) hfields
  have hbodies : (Datagram.body data).length = (Datagram.body other).length := by
    have hdata := length_body hf
    have hother := length_body hg
    omega
  obtain ⟨hbody, hkey⟩ := List.append_inj h hbodies
  exact ⟨hfields, hprevious, hbody, hkey⟩

/-- Datagrams that agree in their fields hold the same frame. -/
theorem eq_of_take_eq (hf : ofBytes data = .ok f) (hg : ofBytes other = .ok g)
    (h : data.take (Datagram.lengthField data) = other.take (Datagram.lengthField other)) :
    f = g := by
  have hbytes : f.toBytes = g.toBytes := by rw [← take_of_ofBytes hf, ← take_of_ofBytes hg, h]
  have hsame := (sound_of_ofBytes hf).ofBytes_toBytes
  rw [hbytes, (sound_of_ofBytes hg).ofBytes_toBytes] at hsame
  exact (Except.ok.inj hsame).symm

end Frame

namespace Packet

/-- A response that is accepted for a request carries the digest of its string. -/
theorem digest_of_decode {data a : Bytes} {secret : Value} {p : Packet}
    (h : decode (.bytes data) secret (.bytes a) = .ok p) :
    ∃ key f, secret.toSecret = .ok key ∧ Frame.ofBytes data = .ok f ∧
      sentAuthenticator data = MD5.digest (Datagram.hashed data a key) ∧
      p = ofFrame f key (.bytes a) := by
  obtain ⟨key, f, hkey, hf, hauthentic, hp⟩ := (@decode_eq_ok_iff data secret (some a) p).1 h
  refine ⟨key, f, hkey, hf, ?_, hp⟩
  rw [← Datagram.digest_eq]
  exact (Frame.authentic_iff hf (some a)).1 hauthentic

/-- Two responses with the same authenticator, each accepted under its secret for its request : the
datagrams agree up to their length fields, they are read as the same packet but for the
authenticator of the request, the secrets agree, and the authenticators of the requests agree in the
sixteen bytes that are used. Otherwise the two strings that were digested are a collision. -/
theorem authenticator_binds {data other a b : Bytes} {secret secret' : Value} {p q : Packet}
    (hp : decode (.bytes data) secret (.bytes a) = .ok p)
    (hq : decode (.bytes other) secret' (.bytes b) = .ok q)
    (h : sentAuthenticator data = sentAuthenticator other) :
    ∃ key key', secret.toSecret = .ok key ∧ secret'.toSecret = .ok key' ∧
      (data.take (Datagram.lengthField data) = other.take (Datagram.lengthField other) ∧
          key = key' ∧ Bytes.fit authenticatorSize a = Bytes.fit authenticatorSize b ∧
          p = { q with authenticator := p.authenticator } ∨
        MD5.Collision (Datagram.hashed data a key) (Datagram.hashed other b key')) := by
  obtain ⟨key, f, hkey, hf, hdata, rfl⟩ := digest_of_decode hp
  obtain ⟨key', g, hkey', hg, hother, rfl⟩ := digest_of_decode hq
  refine ⟨key, key', hkey, hkey', ?_⟩
  by_cases hsame : Datagram.hashed data a key = Datagram.hashed other b key'
  · obtain ⟨hfields, hprevious, hbody, rfl⟩ := Frame.eq_of_hashed_eq hf hg hsame
    have htake : data.take (Datagram.lengthField data) =
        other.take (Datagram.lengthField other) := by
      rw [Frame.take_eq hf, Frame.take_eq hg, hfields, h, hbody]
    obtain rfl := Frame.eq_of_take_eq hf hg htake
    exact .inl ⟨htake, rfl, hprevious, rfl⟩
  · exact .inr ⟨hsame, by rw [← hdata, h, hother]⟩

/-- The answer to the start of the session. -/
def sessionAnswer : Packet where
  code := .integer 5
  identifier := .integer 7
  secret := .bytes [0x73]
  authenticator := .bytes (sentAuthenticator sessionStartWire)
  attributes := .list []

/-- What goes on the wire for the answer. -/
def sessionAnswerWire : Bytes :=
  [5, 7, 0, 20, 0xbd, 0x51, 0x68, 0xee, 0x2e, 0xde, 0x57, 0xcd, 0x96, 0x15, 0x72, 0x4f, 0x56, 0x92,
    0x2c, 0xcc]

theorem encode_sessionAnswer : sessionAnswer.encode = .ok sessionAnswerWire := by decide +kernel

/-- The answer is accepted with any padding. -/
theorem decode_sessionAnswer {secret : Value} (hsecret : secret.toSecret = .ok [0x73])
    (padding : Bytes) :
    ∃ p, decode (.bytes (sessionAnswerWire ++ padding)) secret
      (.bytes (sentAuthenticator sessionStartWire)) = .ok p := by
  obtain ⟨f, hf, hw⟩ := encode_eq_ok_iff.1 encode_sessionAnswer
  have hframe : Frame.ofBytes (sessionAnswerWire ++ padding) = .ok f :=
    Frame.ofBytes_eq_ok_iff.2 ⟨hf.sound, padding, by rw [hw]⟩
  have hcode : f.code = .accountingResponse := Option.some.inj (hf.code.symm.trans rfl)
  have hresponse : f.code.isRequest = false := by rw [hcode]; rfl
  have hauthentic := hf.authentic_some rfl hresponse rfl
  exact ⟨_, (@decode_eq_ok_iff _ secret (some _) _).2 ⟨_, f, hsecret, hframe, hauthentic, rfl⟩⟩

theorem authenticator_binds_sessionAnswer :
    ∃ p q, decode (.bytes sessionAnswerWire) (.bytes [0x73])
          (.bytes (sentAuthenticator sessionStartWire)) = .ok p ∧
      decode (.bytes (sessionAnswerWire ++ [0xff])) (.text "s")
          (.bytes (sentAuthenticator sessionStartWire)) = .ok q ∧
      sentAuthenticator sessionAnswerWire = sentAuthenticator (sessionAnswerWire ++ [0xff]) ∧
      ∃ key key', (Value.bytes [0x73]).toSecret = .ok key ∧ (Value.text "s").toSecret = .ok key' ∧
        (sessionAnswerWire.take (Datagram.lengthField sessionAnswerWire) =
              (sessionAnswerWire ++ [0xff]).take
                (Datagram.lengthField (sessionAnswerWire ++ [0xff])) ∧
            key = key' ∧
            Bytes.fit authenticatorSize (sentAuthenticator sessionStartWire) =
              Bytes.fit authenticatorSize (sentAuthenticator sessionStartWire) ∧
            p = { q with authenticator := p.authenticator } ∨
          MD5.Collision
            (Datagram.hashed sessionAnswerWire (sentAuthenticator sessionStartWire) key)
            (Datagram.hashed (sessionAnswerWire ++ [0xff]) (sentAuthenticator sessionStartWire)
              key')) := by
  have hbytes : (Value.bytes [0x73]).toSecret = .ok [0x73] := rfl
  have htext : (Value.text "s").toSecret = .ok [0x73] := by decide
  obtain ⟨p, hp⟩ := decode_sessionAnswer hbytes []
  obtain ⟨q, hq⟩ := decode_sessionAnswer htext [0xff]
  have hsent : sentAuthenticator sessionAnswerWire =
      sentAuthenticator (sessionAnswerWire ++ [0xff]) := by decide
  exact ⟨p, q, hp, hq, hsent, authenticator_binds hp hq hsent⟩

end Packet

end Radius
