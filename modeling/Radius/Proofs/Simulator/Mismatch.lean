import Radius.Proofs.Packet.Acceptance
import Radius.Proofs.Simulator.Agreement
import Radius.Proofs.Simulator.Receive

/-!
# Different secrets

A client and a simulator whose secrets lead to different digests never get to a reply
(`Simulator.mismatch_detected`). An accounting request carries a digest, so the simulator refuses it
and stays silent. The other requests carry none : the simulator reads them, whatever it makes of the
password in them, and signs its reply with its own secret, so the client refuses the reply.

Two digests are compared in each case, over one header, one authenticator and one body, and they
differ in the secret at the end alone (`Datagram.digest`). That they differ is the only assumption.
-/

namespace Radius

/-- A frame that carries the digest under one secret does not carry another digest. -/
theorem Frame.digest_ne {data previous key other : Bytes} {f : Frame} (hf : ofBytes data = .ok f)
    (h : f.digest previous key = f.header.authenticator)
    (hne : Datagram.digest data previous key ≠ Datagram.digest data previous other) :
    f.digest previous other ≠ f.header.authenticator := by
  rw [← digest_of_ofBytes hf, ← digest_of_ofBytes hf] at hne
  exact fun hother => hne (h.trans hother.symm)

namespace Packet

/-- An accounting request is refused under a secret with another digest. -/
theorem Sends.decode_accounting_mismatch {p : Packet} {f : Frame} (h : p.Sends f)
    {key other : Bytes} {secret : Value} (hsecret : p.secret = .bytes key)
    (hother : secret.toSecret = .ok other) (hcode : f.code = .accountingRequest)
    (hne : Datagram.digest f.toBytes (Bytes.zeros authenticatorSize) key ≠
      Datagram.digest f.toBytes (Bytes.zeros authenticatorSize) other) :
    decode (.bytes f.toBytes) secret .absent = .error (.decode .requestMismatch) := by
  have hframe := h.sound.ofBytes_toBytes
  have hdigest := Frame.digest_ne hframe (h.authentic_none hsecret hcode) hne
  have hauthentic : ¬f.Authentic other none := fun hother => hdigest (hother hcode)
  exact decode_of_not_authentic hother hframe none hauthentic

/-- A response is refused under a secret with another digest. -/
theorem Sends.decode_response_mismatch {r : Packet} {g : Frame} (h : r.Sends g)
    {key other a : Bytes} (hsecret : r.secret = .bytes other) (ha : r.authenticator = .bytes a)
    (hcode : g.code.isRequest = false)
    (hne : Datagram.digest g.toBytes a key ≠ Datagram.digest g.toBytes a other) :
    decode (.bytes g.toBytes) (.bytes key) (.bytes a) = .error (.decode .responseMismatch) := by
  have hframe := h.sound.ofBytes_toBytes
  have hdigest := Frame.digest_ne hframe (h.authentic_some hsecret hcode ha) hne.symm
  have hauthentic : ¬g.Authentic key (some a) := hdigest
  exact decode_of_not_authentic rfl hframe (some a) hauthentic

end Packet

namespace Simulator

open Packet

theorem sent_eq_none_of_decode {s : Simulator} {data : Value} {why : PacketError}
    (h : decode data s.secret .absent = .error why) (sender : Peer) (chance : Chance) :
    (s.receive data sender chance).sent = none := by
  refine Option.eq_none_iff_forall_ne_some.2 fun d hd => ?_
  obtain ⟨_, _, _, _, _, _, _, -, hdecode, -⟩ := receive_sent_iff.1 hd
  cases h.symm.trans hdecode

/-- A request and a simulator of another secret : the simulator refuses an accounting request and
sends nothing, if the digests that are compared differ. It reads any other request and replies, and
the client refuses whatever the reply is encoded to, if the digests of the reply differ. -/
theorem mismatch_detected {p : Packet} {c : Code} {key other w : Bytes} {s : Simulator}
    (hcode : p.code? = some c) (hrequest : c.isRequest = true) (hsecret : p.secret = .bytes key)
    (hw : p.encode = .ok w) (hs : s.secret.toSecret = .ok other) :
    (c = .accountingRequest →
        Datagram.digest w (Bytes.zeros authenticatorSize) key ≠
            Datagram.digest w (Bytes.zeros authenticatorSize) other →
          decode (.bytes w) s.secret .absent = .error (.decode .requestMismatch) ∧
            ∀ sender chance, (s.receive (.bytes w) sender chance).sent = none) ∧
      (c ≠ .accountingRequest →
        ∃ request, decode (.bytes w) s.secret .absent = .ok request ∧
          ∀ entropy, ∃ r, s.reply request entropy = .ok (some r) ∧
            ∀ v, r.encode = .ok v →
              Datagram.digest v (sentAuthenticator w) key ≠
                  Datagram.digest v (sentAuthenticator w) other →
                decode (.bytes v) p.secret (.bytes (sentAuthenticator w)) =
                    .error (.decode .responseMismatch) ∧
                  Client.readReply p w v = .failed ⟨.decodePacket,
                    some (Cause.ofDecodeError .responseMismatch), none⟩) := by
  obtain ⟨f, h, rfl⟩ := encode_eq_ok_iff.1 hw
  obtain rfl : f.code = c := Option.some.inj (h.code.symm.trans hcode)
  rw [sentAuthenticator_toBytes h.sound]
  refine ⟨fun haccounting hne => ?_, fun hrandom => ?_⟩
  · have hdecode := h.decode_accounting_mismatch hsecret hs haccounting hne
    exact ⟨hdecode, sent_eq_none_of_decode hdecode⟩
  · refine ⟨_, h.decode_random hrandom hs, fun entropy => ?_⟩
    have hreceived : (ofFrame f other (.bytes f.header.authenticator)).code? = some f.code :=
      Code.ofValue?_toValue f.code
    obtain ⟨r, hr, hanswers⟩ :=
      reply_answers rfl rfl (ofFrame_attributes f other _) s entropy hreceived hrequest
    refine ⟨r, hr, fun v hv hne => ?_⟩
    obtain ⟨g, hg, rfl⟩ := encode_eq_ok_iff.1 hv
    have hmismatch := hg.decode_response_mismatch hanswers.secret hanswers.authenticator
      (hanswers.isRequest_of_sends hg) hne
    rw [hsecret, Client.readReply, hsecret, sentAuthenticator_toBytes h.sound, hmismatch]
    exact ⟨rfl, rfl⟩

/-- A request for the status of a server. -/
def statusProbe : Packet where
  code := .integer 12
  identifier := .integer 5
  secret := .bytes [0x73]
  authenticator := .bytes (Bytes.zeros authenticatorSize)
  attributes := .list []

/-- What goes on the wire for the request. -/
def statusProbeWire : Bytes := [12, 5, 0, 20] ++ Bytes.zeros authenticatorSize

theorem encode_statusProbe : statusProbe.encode = .ok statusProbeWire := by decide +kernel

/-- A simulator that has another secret than the requests. -/
def stranger : Simulator := start (.bytes [0x74]) standardUsers {}

/-- What the simulator of another secret answers to the request for the status. -/
def strangerWire : Bytes :=
  [2, 5, 0, 27, 0xf8, 0x3e, 0x8f, 0xb3, 0x2f, 0x7c, 0x56, 0x5d, 0xff, 0xa0, 0x6b, 0xfd, 0x92, 0x75,
    0xf4, 0x73, 18, 7, 0x61, 0x6c, 0x69, 0x76, 0x65]

theorem encode_stranger :
    (decode (.bytes statusProbeWire) stranger.secret .absent >>= fun request =>
      stranger.reply request noEntropy >>= fun r => (r.map encode).getD (.ok [])) =
        .ok strangerWire := by
  decide +kernel

theorem mismatch_detected_stranger :
    (∀ sender chance,
        (stranger.receive (.bytes sessionStartWire) sender chance).sent = none) ∧
      Client.readReply statusProbe statusProbeWire strangerWire = .failed ⟨.decodePacket,
        some (Cause.ofDecodeError .responseMismatch), none⟩ := by
  have hs : stranger.secret.toSecret = .ok [0x74] := rfl
  have hstart : Datagram.digest sessionStartWire (Bytes.zeros authenticatorSize) [0x73] ≠
      Datagram.digest sessionStartWire (Bytes.zeros authenticatorSize) [0x74] := by decide +kernel
  have hprobe : Datagram.digest strangerWire (sentAuthenticator statusProbeWire) [0x73] ≠
      Datagram.digest strangerWire (sentAuthenticator statusProbeWire) [0x74] := by decide +kernel
  have haccounting := (mismatch_detected rfl rfl rfl encode_sessionStart hs).1 rfl hstart
  obtain ⟨request, hdecode, hreplies⟩ :=
    (mismatch_detected rfl rfl rfl encode_statusProbe hs).2 (by decide)
  obtain ⟨r, hreply, hrefused⟩ := hreplies noEntropy
  have hwire : r.encode = .ok strangerWire := by
    have hwhole := encode_stranger
    rwa [hdecode, ok_bind, hreply, ok_bind] at hwhole
  exact ⟨haccounting.2, (hrefused _ hwire hprobe).2⟩

end Simulator

end Radius
