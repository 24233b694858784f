import Radius.Exchange
import Radius.Proofs.Simulator.Reply

/-!
# The client and the simulator agree

The bytes of a request are decoded by every simulator that has the secret of the request, and it
replies. If the reply has a wire form, the client decodes that to a packet equal to the reply, under
the secret of the request and the authenticator that went out with it
(`Simulator.agrees_with_client`).

An accounting request goes out with a digest in place of the authenticator it holds, so what it
holds need not be a byte string. The reply takes up the authenticator that was sent, and the client
reads the same one off the bytes it sent.
-/

namespace Radius

namespace Packet

/-- A request that is sent is decoded under every value equal to its secret. -/
theorem Sends.decode_request {p : Packet} {f : Frame} (h : p.Sends f) {key : Bytes} {secret : Value}
    (hsecret : p.secret = .bytes key) (hsame : secret.same p.secret = true) :
    decode (.bytes f.toBytes) secret .absent =
      .ok (ofFrame f key (.bytes f.header.authenticator)) := by
  rw [hsecret] at hsame
  have hkey := Value.toSecret_of_toBytes? (Value.same_bytes_right_iff.1 hsame)
  exact decode_toBytes h.sound hkey (h.authentic_none hsecret)

/-- An answer is sent with a response code. -/
theorem Answers.isRequest_of_sends {r request : Packet} (h : r.Answers request) {g : Frame}
    (hg : r.Sends g) : g.code.isRequest = false := by
  obtain ⟨c, hcode, hresponse⟩ := h.code?_eq
  obtain rfl : g.code = c := Option.some.inj (hg.code.symm.trans hcode)
  exact hresponse

/-- An answer that has a wire form is decoded, for the request, to a packet equal to it. -/
theorem Answers.decode_encode {r request : Packet} (h : r.Answers request) {key a v : Bytes}
    (hsecret : request.secret = .bytes key) (ha : request.authenticator = .bytes a)
    (hv : r.encode = .ok v) :
    ∃ q, decode (.bytes v) (.bytes key) (.bytes a) = .ok q ∧ q.same r = true := by
  obtain ⟨g, hg, rfl⟩ := encode_eq_ok_iff.1 hv
  have hr := h.secret.trans hsecret
  rw [← hr]
  exact hg.decode_response hr (h.authenticator.trans ha) h.attributes (h.isRequest_of_sends hg)

end Packet

namespace Simulator

open Packet

/-- A request and a simulator of the same secret : the simulator decodes what the request is encoded
to and replies, and the client decodes what the reply is encoded to as the reply. The reply has the
identifier of the request and the authenticator that was sent. -/
theorem agrees_with_client {p : Packet} {c : Code} {key w : Bytes} {s : Simulator}
    (entropy : Entropy) (hcode : p.code? = some c) (hrequest : c.isRequest = true)
    (hsecret : p.secret = .bytes key) (hw : p.encode = .ok w)
    (hs : s.secret.same p.secret = true) :
    ∃ request r, decode (.bytes w) s.secret .absent = .ok request ∧
      s.reply request entropy = .ok (some r) ∧
      r.identifier.same p.identifier = true ∧
      r.authenticator = .bytes (sentAuthenticator w) ∧
      ∀ v, r.encode = .ok v → ∃ q,
        decode (.bytes v) p.secret (.bytes (sentAuthenticator w)) = .ok q ∧
          Client.readReply p w v = .reply q ∧ q.same r = true := by
  obtain ⟨f, h, rfl⟩ := encode_eq_ok_iff.1 hw
  rw [sentAuthenticator_toBytes h.sound]
  have hdecode := h.decode_request hsecret hs
  have hfcode : (ofFrame f key (.bytes f.header.authenticator)).code? = some c := by
    rw [← hcode, h.code]
    exact Code.ofValue?_toValue f.code
  obtain ⟨r, hr, hanswers⟩ :=
    reply_answers rfl rfl (ofFrame_attributes f key _) s entropy hfcode hrequest
  refine ⟨_, r, hdecode, hr, ?_, hanswers.authenticator, fun v hv => ?_⟩
  · rw [hanswers.identifier]
    exact (Value.same_integer _ _).trans (Value.isNumber_of_toInteger? h.identifier)
  · obtain ⟨q, hq, hsame⟩ := hanswers.decode_encode rfl rfl hv
    rw [hsecret]
    refine ⟨q, hq, ?_, hsame⟩
    rw [Client.readReply, sentAuthenticator_toBytes h.sound, hsecret, hq]

theorem agrees_with_client_sessionStart :
    sessionStart.encode = .ok sessionStartWire ∧
      ∃ request r,
        decode (.bytes sessionStartWire) sessionStart.secret .absent = .ok request ∧
        (start sessionStart.secret standardUsers {}).reply request noEntropy = .ok (some r) ∧
        r.identifier.same sessionStart.identifier = true ∧
        r.authenticator = .bytes (sentAuthenticator sessionStartWire) ∧
        ∀ v, r.encode = .ok v → ∃ q,
          decode (.bytes v) sessionStart.secret (.bytes (sentAuthenticator sessionStartWire)) =
              .ok q ∧
            Client.readReply sessionStart sessionStartWire v = .reply q ∧ q.same r = true := by
  have hcode : sessionStart.code? = some .accountingRequest := rfl
  have hsecret : sessionStart.secret = .bytes [0x73] := rfl
  have hs : (start sessionStart.secret standardUsers {}).secret.same sessionStart.secret = true :=
    Value.same_bytes_iff.2 rfl
  have hagrees := agrees_with_client noEntropy hcode rfl hsecret encode_sessionStart hs
  exact ⟨encode_sessionStart, hagrees⟩

end Simulator

end Radius
