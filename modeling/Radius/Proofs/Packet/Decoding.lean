import Radius.Proofs.Packet.Frame
import Radius.Proofs.Value

/-!
# Packets decoded

A datagram is decoded to the packet of the frame it holds, if the frame is `Frame.Authentic` : it
carries the digest over the authenticator of the request that was given, or over zeros if none was
given and it is an accounting request (`Packet.decode_eq_ok_iff`). Every error is a `DecodeError`,
that of the frame or the mismatch of the digest (`Packet.decodeBytes_eq`).
-/

namespace Radius

namespace Frame

/-- The digest of a frame over the authenticator of the request it answers. -/
def digest (f : Frame) (previous secret : Bytes) : Bytes :=
  Authenticator.digest { f.header with authenticator := previous } f.body secret

/-- Whether a frame carries the digest it has to carry under a secret : over the authenticator of a
request if one is given, over zeros if it is an accounting request, and none otherwise. -/
def Authentic (f : Frame) (secret : Bytes) : Option Bytes → Prop
  | some previous => f.digest previous secret = f.header.authenticator
  | none => f.code = .accountingRequest →
      f.digest (Bytes.zeros authenticatorSize) secret = f.header.authenticator

instance (f : Frame) (secret : Bytes) : ∀ request, Decidable (f.Authentic secret request)
  | some previous => inferInstanceAs (Decidable (f.digest previous secret = _))
  | none => inferInstanceAs (Decidable (f.code = .accountingRequest → _))

end Frame

/-- An attribute as an item of an attribute list. -/
def Attribute.toItem (a : Attribute) : Value := .pair (.integer a.type.toNat) (.bytes a.value)

namespace Packet

theorem ofFrame_attributes (f : Frame) (secret : Bytes) (authenticator : Value) :
    (ofFrame f secret authenticator).attributes = .list (f.attributes.map Attribute.toItem) := by
  simp only [ofFrame, attributeList, List.map_map]
  rfl

/-- What is reported of a frame that is not authentic. -/
def mismatch : Option Bytes → DecodeError
  | none => .requestMismatch
  | some _ => .responseMismatch

/-- The digest of the fields of a sound frame, whatever value holds its identifier. -/
theorem digestOf_frame {f : Frame} (hf : f.Sound) {identifier : Value}
    (hid : identifier.toInteger? = some (f.header.identifier.toNat : Int))
    (previous secret : Bytes) :
    Authenticator.digestOf f.code.toValue identifier (.integer f.header.length) (.bytes previous)
      (.bytes f.body) (.bytes secret) = .ok (f.digest previous secret) := by
  have hheader : Header.ofValues f.code.toValue identifier (.integer f.header.length)
      (.bytes previous) = .ok { f.header with authenticator := previous } :=
    Header.ofValues_eq_ok_iff.2 ⟨hf.code, hid, rfl, hf.length_lt, rfl⟩
  exact Authenticator.digestOf_bytes hheader f.body secret

theorem verify_eq {f : Frame} (hf : f.Sound) (previous secret : Bytes) (why : DecodeError) :
    verify f (.bytes previous) secret why =
      if f.digest previous secret = f.header.authenticator then .ok ()
      else .error (.decode why) := by
  rw [verify, digestOf_frame hf rfl, ok_bind]
  by_cases h : f.digest previous secret = f.header.authenticator <;> simp [h]

/-- A datagram is decoded to the packet of the frame it holds, if that is authentic. -/
theorem decodeBytes_eq (data secret : Bytes) (request : Option Bytes) :
    decodeBytes data secret (Value.ofBytes? request) =
      match Frame.ofBytes data with
      | .error why => .error (.decode why)
      | .ok f =>
        if f.Authentic secret request then
          .ok (ofFrame f secret (.bytes (request.getD f.header.authenticator)))
        else .error (.decode (mismatch request)) := by
  rw [decodeBytes]
  cases hframe : Frame.ofBytes data with
  | error why => rw [lift_decode, mapError_error, error_bind]
  | ok f =>
    have hf := Frame.sound_of_ofBytes hframe
    rw [lift_decode, mapError_ok, ok_bind]
    cases request with
    | none =>
      by_cases hcode : f.code = .accountingRequest
      · by_cases hdigest : f.digest (Bytes.zeros authenticatorSize) secret = f.header.authenticator
        · simp [Value.ofBytes?, hcode, verify_eq hf, hdigest, Frame.Authentic]
        · simp [Value.ofBytes?, hcode, verify_eq hf, hdigest, Frame.Authentic, mismatch]
      · simp [Value.ofBytes?, hcode, Frame.Authentic]
    | some previous =>
      by_cases hdigest : f.digest previous secret = f.header.authenticator
      · simp [Value.ofBytes?, verify_eq hf, hdigest, Frame.Authentic]
      · simp [Value.ofBytes?, verify_eq hf, hdigest, Frame.Authentic, mismatch]

theorem decode_bytes {secret : Value} {s : Bytes} (hs : secret.toSecret = .ok s) (data : Bytes)
    (request : Value) : decode (.bytes data) secret request = decodeBytes data s request := by
  rw [decode, hs, lift_operand, mapError_ok, ok_bind]
  by_cases h : data.length < Header.size
  · have hframe : Frame.ofBytes data = .error .tooShort := by
      rw [Frame.ofBytes, Header.ofBytes?_eq_none_iff.2 h]
    simp [Value.length, h, decodeBytes, hframe]
  · simp [Value.length, h, Value.toBytes?]

/-- A datagram is decoded if the secret is one and the datagram holds an authentic frame. -/
theorem decode_eq_ok_iff {data : Bytes} {secret : Value} {request : Option Bytes} {q : Packet} :
    decode (.bytes data) secret (Value.ofBytes? request) = .ok q ↔
      ∃ key f, secret.toSecret = .ok key ∧ Frame.ofBytes data = .ok f ∧ f.Authentic key request ∧
        q = ofFrame f key (.bytes (request.getD f.header.authenticator)) := by
  cases hkey : secret.toSecret with
  | error why => simp [decode, hkey]
  | ok key =>
    rw [decode_bytes hkey, decodeBytes_eq]
    cases hframe : Frame.ofBytes data with
    | error why => simp
    | ok f =>
      by_cases h : f.Authentic key request
      · simp [h, eq_comm]
      · simp [h]

/-- A datagram that holds a frame which is not authentic is refused as a mismatch. -/
theorem decode_of_not_authentic {data key : Bytes} {secret : Value} {f : Frame}
    (hkey : secret.toSecret = .ok key) (hf : Frame.ofBytes data = .ok f) (request : Option Bytes)
    (h : ¬f.Authentic key request) :
    decode (.bytes data) secret (Value.ofBytes? request) = .error (.decode (mismatch request)) := by
  rw [decode_bytes hkey, decodeBytes_eq, hf]
  exact if_neg h

end Packet

end Radius
