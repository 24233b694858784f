import Radius.Proofs.Exchange.Reply
import Radius.Proofs.Packet.Tampering
import Radius.Proofs.Simulator.Receive
import Radius.Proofs.Simulator.Reply

/-!
# Corrupted replies

A simulator corrupts a reply in its ninth byte, which is part of the authenticator
(`Simulator.getElem?_corrupt_ne_iff`). Every reply is a response to the request that was decoded,
under the secret it was decoded with (`Simulator.answers_datagram`), so a client with that secret
refuses the corrupted one, and an exchange that receives it fails in decoding
(`Exchange.corruption_detected`).
-/

namespace Radius

namespace Exchange

open Packet Simulator

/-- A response whose bytes are changed within the authenticator, and nowhere else, is refused. This
is what happens to every reply that a simulator corrupts : what is sent differs from the encoded
reply in one byte, and a client with the secret of the simulator that sent the datagram refuses it,
so an exchange that receives it fails in decoding. -/
theorem corruption_detected :
    (∀ (r : Packet) (c : Code) (v other : Bytes), r.code? = some c → c.isRequest = false →
        r.encode = .ok v → other.length = v.length →
        (∀ i, i < 4 ∨ Header.size ≤ i → other[i]? = v[i]?) → other ≠ v →
        decode (.bytes other) r.secret r.authenticator = .error (.decode .responseMismatch)) ∧
      ∀ (s : Simulator) (data : Bytes) (sender : Peer) (chance kept rest : Chance) (d : Dispatch),
        s.faults.dropped chance = .ok (false, kept) →
        s.faults.corrupted kept = .ok (true, rest) →
        (s.receive (.bytes data) sender chance).sent = some d →
        ∃ request r v, decode (.bytes data) s.secret .absent = .ok request ∧
          s.reply request noEntropy = .ok (some r) ∧ r.encode = .ok v ∧
          d.data.length = v.length ∧ (∀ i, d.data[i]? ≠ v[i]? ↔ i = 8) ∧
          ∀ p : Packet, p.secret.toSecret = s.secret.toSecret →
            decode (.bytes d.data) p.secret (.bytes (sentAuthenticator data)) =
                .error (.decode .responseMismatch) ∧
              ∀ (c : Client) (remote : Endpoint) (net : Network),
                (∀ step ∈ Step.encode.before, step.Succeeds c p net) →
                Received c p net data d.data →
                (c.exchange remote p net).outcome = .failed ⟨.decodePacket,
                  some (Cause.ofDecodeError .responseMismatch), none⟩ := by
  refine ⟨fun r c v other => decode_tampered, ?_⟩
  intro s data sender chance kept rest d hkept hcorrupted hsent
  obtain ⟨kept', request, r, v, corrupted, _, delay, hkept', hdecode, hreply, hv, hdrawn, -, rfl⟩ :=
    receive_sent_iff.1 hsent
  cases hkept.symm.trans hkept'
  cases hcorrupted.symm.trans hdrawn
  obtain ⟨key, hkey, hsecret, ha, c, hcode, hresponse⟩ := answers_datagram hdecode hreply
  have hsize : Header.size ≤ v.length := by
    obtain ⟨f, -, rfl⟩ := encode_eq_ok_iff.1 hv
    rw [Frame.length_toBytes]
    exact Nat.le_add_right _ _
  have hdata : (dispatch (transmitted v true) delay sender).data = corrupt v :=
    transmitted_of_corrupted hsize
  rw [hdata]
  have hninth : 8 < v.length := Nat.lt_of_lt_of_le (by decide) hsize
  refine ⟨request, r, v, hdecode, hreply, hv, length_corrupt v, getElem?_corrupt_ne_iff hninth,
    fun p hp => ?_⟩
  have hrefused := decode_tampered hcode hresponse hv (length_corrupt v)
    (getElem?_corrupt_outside _) (corrupt_ne hninth)
  have hmismatch : decode (.bytes (corrupt v)) p.secret (.bytes (sentAuthenticator data)) =
      .error (.decode .responseMismatch) := by
    rw [hsecret, ha, decode_bytes rfl] at hrefused
    rw [decode_bytes (hp.trans hkey), hrefused]
  refine ⟨hmismatch, fun c remote net hbefore hreceived => ?_⟩
  rw [outcome_of_received hreceived hbefore, Client.readReply, hmismatch]

/-- A simulator that corrupts every reply. -/
def corruptor : Simulator :=
  start sessionStart.secret standardUsers { corruptRate := .integer 1 }

/-- Where the requests come from. -/
def localPeer : Peer := ⟨"127.0.0.1", 1813⟩

theorem corruption_detected_corruptor :
    decode (.bytes (corrupt sessionAnswerWire)) sessionAnswer.secret sessionAnswer.authenticator =
        .error (.decode .responseMismatch) ∧
      ∃ d, (corruptor.receive (.bytes sessionStartWire) localPeer ⟨[], 0⟩).sent = some d ∧
        (Client.exchange ⟨none, none⟩ loopback sessionStart (answering d.data)).outcome =
          .failed ⟨.decodePacket, some (Cause.ofDecodeError .responseMismatch), none⟩ := by
  obtain ⟨hresponses, hdatagrams⟩ := corruption_detected
  have hninth : 8 < sessionAnswerWire.length := by decide
  have hresponse := hresponses sessionAnswer .accountingResponse sessionAnswerWire _ rfl rfl
    encode_sessionAnswer (length_corrupt _) (getElem?_corrupt_outside _) (corrupt_ne hninth)
  have hsome : (corruptor.receive (.bytes sessionStartWire) localPeer ⟨[], 0⟩).sent.isSome = true :=
    by decide +kernel
  obtain ⟨d, hd⟩ := Option.isSome_iff_exists.1 hsome
  obtain ⟨_, _, _, -, -, -, -, -, hclients⟩ := hdatagrams _ _ _ _ ⟨[], 0⟩ ⟨[], 1⟩ d rfl rfl hd
  exact ⟨hresponse, d, hd, (hclients sessionStart rfl).2 _ _ _ (succeeds_answering _ _ _)
    (received_answering _ encode_sessionStart _)⟩

end Exchange

end Radius
