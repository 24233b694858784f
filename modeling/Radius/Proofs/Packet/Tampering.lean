import Radius.Proofs.Packet.RoundTrip

/-!
# Datagrams that are not authentic

A response goes out with the digest over the authenticator and the secret it holds, whatever kinds
of byte strings these are (`Packet.Sends.signed`). A datagram that holds a frame with another
authenticator than this digest is refused as a mismatch (`Packet.decode_mismatch`).

The authenticator of a response is the only field that its digest does not cover, so a response is
refused if its bytes are changed there and nowhere else (`Packet.decode_tampered`). Nothing is
assumed of the digest but its size.
-/

namespace Radius

theorem Value.append_bytes_eq_ok_iff {a : Bytes} {w v : Value} :
    (bytes a).append w = .ok v ↔ ∃ b, w.toBytes? = some b ∧ v = bytes (a ++ b) := by
  rw [append]
  cases w.toBytes? <;> simp [eq_comm]

/-- The digest of fields is that of the header packed from them, under a secret of any kind of byte
string. -/
theorem Authenticator.digestOf_eq_ok_iff {code identifier length authenticator secret : Value}
    {body d : Bytes} :
    digestOf code identifier length authenticator (.bytes body) secret = .ok d ↔
      ∃ header key, Header.ofValues code identifier length authenticator = .ok header ∧
        secret.toBytes? = some key ∧ d = digest header body key := by
  simp only [digestOf, bind_eq_ok_iff, lift_field, lift_operand, mapError_eq_ok_iff,
    Value.append_bytes_eq_ok_iff]
  constructor
  · rintro ⟨header, hheader, _, ⟨_, hbody, rfl⟩, _, hkey, message, hmessage, hd⟩
    obtain rfl := Option.some.inj hbody
    obtain ⟨key, hsecret, rfl⟩ := Value.append_bytes_eq_ok_iff.1 hkey
    obtain rfl := Except.ok.inj hmessage
    exact ⟨header, key, hheader, hsecret, (Except.ok.inj hd).symm⟩
  · rintro ⟨header, key, hheader, hkey, rfl⟩
    exact ⟨header, hheader, _, ⟨body, rfl, rfl⟩, _,
      Value.append_bytes_eq_ok_iff.2 ⟨key, hkey, rfl⟩, _, rfl, rfl⟩

namespace Frame

/-- A frame with another authenticator. -/
def withAuthenticator (f : Frame) (a : Bytes) : Frame :=
  { f with header := { f.header with authenticator := a } }

variable {f : Frame} {a : Bytes}

theorem Sound.withAuthenticator (hf : f.Sound) (ha : a.length = authenticatorSize) :
    (f.withAuthenticator a).Sound :=
  ⟨hf.code, hf.length, hf.fits, ha, hf.body⟩

theorem toBytes_withAuthenticator (ha : a.length = authenticatorSize) :
    (f.withAuthenticator a).toBytes = f.toBytes.take 4 ++ a ++ f.toBytes.drop Header.size := by
  have hbody : f.toBytes.drop Header.size = f.body := by
    rw [toBytes, ← Header.length_toBytes f.header, List.drop_left]
  have hfields : f.toBytes.take 4 =
      [f.header.code, f.header.identifier] ++ Bytes.be16 f.header.length := by
    simp [toBytes, Header.toBytes, Bytes.be16]
  rw [hbody, hfields]
  simp [toBytes, withAuthenticator, Header.toBytes, Bytes.fit_eq_self ha]

end Frame

namespace Packet

/-- Only the bytes of the authenticator that is given are compared. -/
theorem verify_of_toBytesField {given : Value} {previous : Bytes}
    (h : given.toBytesField = .ok previous) (f : Frame) (secret : Bytes) (why : DecodeError) :
    verify f given secret why = verify f (.bytes previous) secret why := by
  have hsame : given.toBytesField = (Value.bytes previous).toBytesField := h
  simp only [verify, Authenticator.digestOf, Header.ofValues, hsame]

/-- A frame with another authenticator than its digest is refused. -/
theorem decode_mismatch {data key previous : Bytes} {secret given : Value} {f : Frame}
    (hkey : secret.toSecret = .ok key) (hgiven : given.toBytesField = .ok previous)
    (hf : Frame.ofBytes data = .ok f) (h : f.digest previous key ≠ f.header.authenticator) :
    decode (.bytes data) secret given = .error (.decode .responseMismatch) := by
  have hverify := verify_of_toBytesField hgiven f key .responseMismatch
  rw [verify_eq (Frame.sound_of_ofBytes hf), if_neg h] at hverify
  rw [decode_bytes hkey, decodeBytes, hf, lift_decode, mapError_ok, ok_bind]
  cases given with
  | bytes | buffer =>
    dsimp only
    rw [hverify, error_bind]
  | _ => cases hgiven

/-- A response is sent with the digest over the authenticator and the secret it holds. -/
theorem Sends.signed {p : Packet} {f : Frame} (h : p.Sends f) (hcode : f.code.isRequest = false) :
    ∃ key previous, p.secret.toBytes? = some key ∧ p.authenticator.toBytesField = .ok previous ∧
      f.digest previous key = f.header.authenticator := by
  obtain ⟨v, hv, hbytes⟩ := h.authenticator
  rw [wireAuthenticator_of_not_isRequest hcode, map_eq_ok_iff] at hv
  obtain ⟨d, hd, rfl⟩ := hv
  obtain ⟨header, key, hheader, hkey, rfl⟩ := Authenticator.digestOf_eq_ok_iff.1 hd
  obtain ⟨hnumber, hid, hlength, -, hprevious⟩ := Header.ofValues_eq_ok_iff.1 hheader
  have hcodes : header.code = f.header.code :=
    UInt8.toNat_inj.1 (hnumber.trans h.sound.code.symm)
  have hids : header.identifier = f.header.identifier :=
    UInt8.toNat_inj.1 (Int.ofNat_inj.1 (Option.some.inj (hid.symm.trans h.identifier)))
  have hheaders : { f.header with authenticator := header.authenticator } = header := by
    dsimp only
    rw [← hcodes, ← hids, ← hlength]
  refine ⟨key, header.authenticator, hkey, hprevious, ?_⟩
  rw [Frame.digest, hheaders]
  exact Except.ok.inj hbytes

/-- Every datagram is the fields before the authenticator, the authenticator and the rest. -/
theorem append_sentAuthenticator (data : Bytes) :
    data.take 4 ++ sentAuthenticator data ++ data.drop Header.size = data := by
  have hrest : data.drop Header.size = (data.drop 4).drop authenticatorSize := by
    rw [List.drop_drop]
    rfl
  rw [sentAuthenticator, List.append_assoc, hrest, List.take_append_drop, List.take_append_drop]

section Changed

variable {f : Frame} {other : Bytes} (hlength : other.length = f.toBytes.length)
include hlength

theorem length_sentAuthenticator_of_length_eq :
    (sentAuthenticator other).length = authenticatorSize := by
  have hlow : Header.size ≤ other.length := by
    rw [hlength, Frame.length_toBytes]
    exact Nat.le_add_right _ _
  simp only [sentAuthenticator, List.length_take, List.length_drop, Header.size] at hlow ⊢
  exact Nat.min_eq_left (by rw [authenticatorSize]; omega)

/-- Bytes that differ from those of a frame in the authenticator alone are those of the frame with
another authenticator. -/
theorem eq_withAuthenticator (houtside : ∀ i, i < 4 ∨ Header.size ≤ i → other[i]? = f.toBytes[i]?) :
    other = (f.withAuthenticator (sentAuthenticator other)).toBytes := by
  have hfront : other.take 4 = f.toBytes.take 4 := by
    refine List.ext_getElem? fun i => ?_
    by_cases hi : i < 4
    · rw [List.getElem?_take_of_lt hi, List.getElem?_take_of_lt hi, houtside i (.inl hi)]
    · have hle := Nat.not_lt.1 hi
      rw [List.getElem?_take_eq_none hle, List.getElem?_take_eq_none hle]
  have hrest : other.drop Header.size = f.toBytes.drop Header.size := by
    refine List.ext_getElem? fun i => ?_
    rw [List.getElem?_drop, List.getElem?_drop, houtside _ (.inr (Nat.le_add_right _ i))]
  rw [Frame.toBytes_withAuthenticator (length_sentAuthenticator_of_length_eq hlength), ← hfront,
    ← hrest, append_sentAuthenticator]

end Changed

/-- A response whose bytes are changed in the authenticator and nowhere else is refused, under the
secret and the authenticator it was made with. -/
theorem decode_tampered {r : Packet} {c : Code} {v other : Bytes} (hcode : r.code? = some c)
    (hresponse : c.isRequest = false) (hv : r.encode = .ok v) (hlength : other.length = v.length)
    (houtside : ∀ i, i < 4 ∨ Header.size ≤ i → other[i]? = v[i]?) (hne : other ≠ v) :
    decode (.bytes other) r.secret r.authenticator = .error (.decode .responseMismatch) := by
  obtain ⟨f, h, rfl⟩ := encode_eq_ok_iff.1 hv
  obtain rfl : f.code = c := Option.some.inj (h.code.symm.trans hcode)
  obtain ⟨key, previous, hkey, hprevious, hdigest⟩ := h.signed hresponse
  have hother := eq_withAuthenticator hlength houtside
  have hframe : Frame.ofBytes other = .ok (f.withAuthenticator (sentAuthenticator other)) := by
    have hsize := length_sentAuthenticator_of_length_eq hlength
    have hholds := (h.sound.withAuthenticator hsize).ofBytes_toBytes
    rwa [← hother] at hholds
  -- The digest does not cover the authenticator, so it is the one that was sent.
  refine decode_mismatch (Value.toSecret_of_toBytes? hkey) hprevious hframe fun hsame => hne ?_
  have hown : sentAuthenticator other = f.header.authenticator := hsame.symm.trans hdigest
  rw [hother, hown]
  rfl

end Packet

end Radius
