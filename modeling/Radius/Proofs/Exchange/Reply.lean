import Radius.Proofs.Exchange.Socket
import Radius.Proofs.Packet.Binding

/-!
# Replies

An exchange returns a packet only if it has sent the request, received one datagram, and found that
this carries the digest over the authenticator that went out with the request. Once a datagram has
been received, what it is decoded to is the outcome (`reply_authentic`).

The authenticator that went out is read off the encoded request (`Packet.length_sentAuthenticator`),
so nothing here depends on the code of the request.
-/

namespace Radius

namespace Packet

/-- The authenticator of an encoded packet has its size. -/
theorem length_sentAuthenticator {p : Packet} {w : Bytes} (h : p.encode = .ok w) :
    (sentAuthenticator w).length = authenticatorSize := by
  obtain ⟨f, hf, rfl⟩ := encode_eq_ok_iff.1 h
  rw [sentAuthenticator_toBytes hf.sound]
  exact hf.sound.authenticator

/-- Under a secret of bytes, nothing but the datagram can be refused. -/
theorem decode_cases (data a key : Bytes) :
    (∃ p, decode (.bytes data) (.bytes key) (.bytes a) = .ok p) ∨
      ∃ why, decode (.bytes data) (.bytes key) (.bytes a) = .error (.decode why) := by
  rcases Check.decode_verdict data key (some a) with ⟨-, hp⟩ | ⟨_, why, herror, -⟩
  · exact .inl hp
  · exact .inr ⟨why, herror⟩

end Packet

namespace Exchange

variable {c : Client} {remote : Endpoint} {request : Packet} {net : Network}

/-- A packet that is returned is what the one datagram that came back is decoded to. -/
theorem received_of_reply {p : Packet} (h : (c.exchange remote request net).outcome = .reply p) :
    ∃ w d, Received c request net w d ∧
      Packet.decode (.bytes d) request.secret (.bytes (Packet.sentAuthenticator w)) = .ok p ∧
      (c.exchange remote request net).trace = script remote w ++ [.close] := by
  obtain ⟨data, hdata⟩ := exists_wireForm request
  obtain ⟨effects, hproceeds, hcloses, -⟩ := exchange_proceeds c remote net hdata
  rcases hproceeds.all_cases with ⟨q, hq, ⟨w, d, hreceived, hdecode⟩, hall, -⟩ | ⟨s, -, hs, -⟩
  · obtain rfl : q = p := Outcome.reply.inj (hq.symm.trans h)
    obtain ⟨_, hsent⟩ := hreceived.sent
    obtain rfl := hdata w hsent.1
    refine ⟨w, d, hreceived, hdecode, ?_⟩
    rw [hcloses ⟨hall .create, by simp [h]⟩, hproceeds.effects_of_succeeds hall]
  · exact (hs.ne_reply p h).elim

section Received

variable {w d : Bytes} (h : Received c request net w d)
include h

/-- Decoding stops the exchange with what the datagram is decoded to. -/
theorem Step.Stops.eq_readReply {outcome : Outcome}
    (hs : Step.decode.Stops c request net remote outcome) :
    outcome = Client.readReply request w d := by
  cases hs with
  | raises hraises => cases hraises
  | expires hexpires =>
    obtain ⟨_, _, _, hwaits, -⟩ := hexpires
    cases hwaits
  | hangs hhangs =>
    obtain ⟨_, _, _, hwaits, -⟩ := hhangs
    cases hwaits
  | @refuses why hrefuses =>
    cases hrefuses with
    | decode hreceived hdecode =>
      obtain ⟨rfl, rfl⟩ := h.unique hreceived
      rw [Client.readReply, hdecode]
      cases why <;> rfl

variable (hbefore : ∀ s ∈ Step.encode.before, s.Succeeds c request net)
include hbefore

/-- Only decoding can fail once a datagram has come back. -/
theorem Step.FailsFirst.eq_decode {s : Step} (hs : s.FailsFirst c request net) : s = .decode := by
  obtain ⟨_, hsent⟩ := h.sent
  by_contra hne
  refine hs.fails ?_
  cases s with
  | encode => exact ⟨w, hsent.1⟩
  | send => exact ⟨w, _, hsent⟩
  | receive => exact ⟨w, d, h⟩
  | decode => exact (hne rfl).elim
  | _ => exact hbefore _ (by decide)

/-- Once a datagram has come back, the outcome is what it is decoded to. -/
theorem outcome_of_received :
    (c.exchange remote request net).outcome = Client.readReply request w d := by
  rcases exchange_outcome c remote request net with ⟨p, hp, ⟨_, _, hreceived, hdecode⟩, -⟩ |
    ⟨s, hfirst, hs⟩
  · obtain ⟨rfl, rfl⟩ := h.unique hreceived
    rw [hp, Client.readReply, hdecode]
  · obtain rfl := hfirst.eq_decode h hbefore
    exact hs.eq_readReply h

end Received

/-- An exchange returns a packet only if one datagram `w`, the encoded request, was sent, one
datagram `d` came back, and `d` is decoded to the packet, which takes that `d` carries the digest
over the authenticator in `w` and the secret of the request. Conversely, once `d` has come back, the
outcome is what it is decoded to. -/
theorem reply_authentic {key : Bytes} (hsecret : request.secret = .bytes key) (c : Client)
    (remote : Endpoint) (net : Network) :
    (∀ p, (c.exchange remote request net).outcome = .reply p →
        ∃ w d, request.encode = .ok w ∧ Received c request net w d ∧
          (c.exchange remote request net).trace = script remote w ++ [.close] ∧
          Packet.decode (.bytes d) request.secret (.bytes (Packet.sentAuthenticator w)) = .ok p ∧
          Packet.sentAuthenticator d =
            MD5.digest (d.take 4 ++ Packet.sentAuthenticator w ++ Datagram.body d ++ key) ∧
          p.authenticator = .bytes (Packet.sentAuthenticator w) ∧ p.secret = request.secret) ∧
      ∀ w d, (∀ s ∈ Step.encode.before, s.Succeeds c request net) → Received c request net w d →
        (∃ p, Packet.decode (.bytes d) request.secret
              (.bytes (Packet.sentAuthenticator w)) = .ok p ∧
            (c.exchange remote request net).outcome = .reply p) ∨
          ∃ why, Packet.decode (.bytes d) request.secret
                (.bytes (Packet.sentAuthenticator w)) = .error (.decode why) ∧
            (c.exchange remote request net).outcome =
              .failed ⟨.decodePacket, some (Cause.ofDecodeError why), none⟩ := by
  refine ⟨fun p hp => ?_, fun w d hbefore hreceived => ?_⟩
  · obtain ⟨w, d, hreceived, hdecode, htrace⟩ := received_of_reply hp
    obtain ⟨_, hsent⟩ := hreceived.sent
    obtain ⟨other, f, hother, -, hdigest, rfl⟩ := Packet.digest_of_decode hdecode
    obtain rfl : key = other := by
      rw [hsecret] at hother
      exact Except.ok.inj hother
    rw [Datagram.hashed, Bytes.fit_eq_self (Packet.length_sentAuthenticator hsent.1)] at hdigest
    exact ⟨w, d, hsent.1, hreceived, htrace, hdecode, hdigest, rfl, hsecret.symm⟩
  · rw [outcome_of_received hreceived hbefore, Client.readReply, hsecret]
    rcases Packet.decode_cases d (Packet.sentAuthenticator w) key with ⟨p, hp⟩ | ⟨why, herror⟩
    · exact .inl ⟨p, hp, by rw [hp]⟩
    · exact .inr ⟨why, herror, by rw [herror]⟩

/-! ## An exchange with a reply -/

/-- A network in which everything succeeds at once and one datagram comes back. -/
def answering (response : Bytes) : Network where
  socket := .ok ()
  bind := .ok ()
  connect := .now ()
  send := .now ()
  receive _ := .now response

theorem received_answering (c : Client) {w : Bytes} (h : request.encode = .ok w)
    (response : Bytes) : Received c request (answering response) w response :=
  ⟨0, 0, ⟨h, .immediate, rfl⟩, .immediate, rfl⟩

theorem succeeds_answering (c : Client) (request : Packet) (response : Bytes) :
    ∀ s ∈ Step.encode.before, s.Succeeds c request (answering response) := by
  intro s hs
  cases s with
  | create | configure | bind | locate => rfl
  | associate => exact ⟨0, .immediate, rfl⟩
  | _ => exact absurd hs (by decide)

/-- An endpoint on the same machine. -/
def loopback : Endpoint := ⟨.text "127.0.0.1", .integer 1813, .inet⟩

theorem reply_authentic_sessionAnswer :
    Packet.sessionStart.secret = .bytes [0x73] ∧
      ∃ p, (Client.exchange ⟨none, none⟩ loopback Packet.sessionStart
            (answering Packet.sessionAnswerWire)).outcome = .reply p ∧
        ∃ w d, Packet.sessionStart.encode = .ok w ∧
          Received ⟨none, none⟩ Packet.sessionStart (answering Packet.sessionAnswerWire) w d ∧
          Packet.sentAuthenticator d =
            MD5.digest (d.take 4 ++ Packet.sentAuthenticator w ++ Datagram.body d ++ [0x73]) ∧
          p.authenticator = .bytes (Packet.sentAuthenticator w) ∧
          p.secret = Packet.sessionStart.secret := by
  have hsecret : Packet.sessionStart.secret = .bytes [0x73] := rfl
  obtain ⟨honly, honce⟩ := reply_authentic hsecret ⟨none, none⟩ loopback
    (answering Packet.sessionAnswerWire)
  have hreceived := received_answering ⟨none, none⟩ Packet.encode_sessionStart
    Packet.sessionAnswerWire
  refine ⟨hsecret, ?_⟩
  rcases honce _ _ (succeeds_answering _ _ _) hreceived with ⟨p, -, hp⟩ | ⟨why, herror, -⟩
  · obtain ⟨w, d, hw, hd, -, -, hdigest, hauthenticator, hkey⟩ := honly p hp
    exact ⟨p, hp, w, d, hw, hd, hdigest, hauthenticator, hkey⟩
  · obtain ⟨q, hq⟩ := @Packet.decode_sessionAnswer Packet.sessionStart.secret rfl []
    cases hq.symm.trans herror

end Exchange

end Radius
