import Radius.Proofs.Exchange.Failure
import Radius.Proofs.Packet.Escape

/-!
# Failures that are not reported

The fields of a request are looked at when it is encoded. Of what can be wrong with them, an
exchange reports what the encoding looks for; an error that escapes the encoding escapes the
exchange as well. `failure_reported` : that is the only way in which an exchange over a network that
fails with system errors only ends without a packet and without a report, and nothing is sent of a
request that is not encoded.
-/

namespace Radius

/-- The secret of a packet is a byte string when the packet is made. -/
theorem Packet.secret_of_create {code identifier secret authenticator : Value}
    {attributes : List (Value × Value)} {entropy : Entropy} {p : Packet} {draws : List Draw}
    (h : create code identifier secret authenticator attributes entropy = .ok (p, draws)) :
    ∃ key, p.secret = .bytes key := by
  rw [create, bind_eq_ok_iff] at h
  obtain ⟨key, -, h⟩ := h
  cases authenticator <;> cases h <;> exact ⟨key, rfl⟩

namespace Exchange

variable {request : Packet} {net : Network} {key : Bytes}

/-- An exchange over a network that fails with system errors only returns a packet, fails with a
report, or does not end because a step of it does not, unless it comes to the encoding of its
request and an error escapes that. Nothing is sent of a request that is not encoded, and what the
encoding refuses it for is reported. -/
theorem failure_reported (hkey : request.secret = .bytes key) (hnet : net.SystemErrors)
    (hlocate : net.localAddress = .ok ()) (c : Client) (remote : Endpoint) :
    ((∃ p, (c.exchange remote request net).outcome = .reply p) ∨
        (∃ e, (c.exchange remote request net).outcome = .failed e) ∨
        ((c.exchange remote request net).outcome = .waiting ∧
          ∃ s : Step, s.FailsFirst c request net ∧ s.Hangs c request net) ∨
        ∃ why, (c.exchange remote request net).outcome = .refused why) ∧
      (∀ why, (c.exchange remote request net).outcome = .refused why ↔
        (∀ s ∈ Step.encode.before, s.Succeeds c request net) ∧ request.Escapes why) ∧
      ∀ e, request.encode = .error e →
        datagrams (c.exchange remote request net).trace = [] ∧
          ((∀ s ∈ Step.encode.before, s.Succeeds c request net) →
            (∃ why, e = .encode why ∧ (c.exchange remote request net).outcome =
                .failed ⟨.encodePacket, some (.ofEncodeError why), none⟩) ∨
              request.Escapes e) := by
  have hcases := exchange_outcome c remote request net
  have hencode {e : PacketError} (h : request.encode = .error e)
      (hbefore : ∀ s ∈ Step.encode.before, s.Succeeds c request net) :
      (c.exchange remote request net).outcome = Step.onRefusal .encode e :=
    outcome_of_stops hbefore (.refuses (.encode h))
  refine ⟨?_, fun why => ⟨fun h => ?_, ?_⟩, fun e he => ⟨?_, fun hbefore => ?_⟩⟩
  · rcases hcases with ⟨p, hp, -⟩ | ⟨s, hfirst, hstops⟩
    · exact .inl ⟨p, hp⟩
    · rcases hstops.reports_or_refused hkey hnet hlocate with
        ⟨e, he, -⟩ | ⟨hwaiting, hhangs⟩ | ⟨why, hwhy, -⟩
      · exact .inr (.inl ⟨e, he⟩)
      · exact .inr (.inr (.inl ⟨hwaiting, s, hfirst, hhangs⟩))
      · exact .inr (.inr (.inr ⟨why, hwhy⟩))
  · rcases hcases with ⟨p, hp, -⟩ | ⟨s, hfirst, hstops⟩
    · cases hp.symm.trans h
    · rcases hstops.reports_or_refused hkey hnet hlocate with
        ⟨e, he, -⟩ | ⟨hwaiting, -⟩ | ⟨other, hother, rfl, herror, hne⟩
      · cases he.symm.trans h
      · cases hwaiting.symm.trans h
      · cases hother.symm.trans h
        exact ⟨hfirst.before, (Packet.escapes_iff hkey).2 ⟨herror, hne⟩⟩
  · rintro ⟨hbefore, hescapes⟩
    rw [hencode (hescapes.encode hkey) hbefore]
    cases hescapes <;> rfl
  · -- A datagram that is sent is an encoded request.
    refine List.eq_nil_iff_forall_not_mem.2 fun w hw => ?_
    cases (encode_of_mem_datagrams hw).1.symm.trans he
  · by_cases hown : ∃ why, e = .encode why
    · obtain ⟨why, rfl⟩ := hown
      exact .inl ⟨why, rfl, hencode he hbefore⟩
    · exact .inr ((Packet.escapes_iff hkey).2 ⟨he, not_exists.1 hown⟩)

/-! ## Requests with texts in them -/

theorem answering_systemErrors (response : Bytes) : (answering response).SystemErrors where
  socket _ h := by cases h
  configure _ h := by cases h
  bind _ h := by cases h
  connect _ h := by cases h
  send _ h := by cases h
  receive _ _ h := by cases h

/-- A request with a text for the value of an attribute. -/
def textAttribute : Packet where
  code := .integer 1
  identifier := .integer 1
  secret := .bytes [0x73]
  authenticator := .bytes (Bytes.zeros authenticatorSize)
  attributes := Packet.attributeList [(.integer 1, .text "alice")]

theorem failure_reported_textAttribute :
    Packet.create (.integer 1) (.integer 1) (.text "s") (.bytes (Bytes.zeros authenticatorSize))
        [(.integer 1, .text "alice")] ⟨0, []⟩ = .ok (textAttribute, []) ∧
      (∃ key, textAttribute.secret = .bytes key) ∧ (answering []).SystemErrors ∧
      (answering []).localAddress = .ok () ∧
      (Client.exchange ⟨none, none⟩ loopback textAttribute (answering [])).outcome =
        .failed ⟨.encodePacket, some (.ofEncodeError (.valueKind (.integer 1) .text)), none⟩ ∧
      datagrams (Client.exchange ⟨none, none⟩ loopback textAttribute
        (answering [])).trace = [] := by
  have hmade : Packet.create (.integer 1) (.integer 1) (.text "s")
      (.bytes (Bytes.zeros authenticatorSize)) [(.integer 1, .text "alice")] ⟨0, []⟩ =
        .ok (textAttribute, []) := rfl
  obtain ⟨key, hkey⟩ := Packet.secret_of_create hmade
  have herror : textAttribute.encode = .error (.encode (.valueKind (.integer 1) .text)) := rfl
  have hnet := answering_systemErrors []
  obtain ⟨-, -, hencode⟩ := failure_reported hkey hnet rfl ⟨none, none⟩ loopback
  obtain ⟨hnothing, hreport⟩ := hencode _ herror
  refine ⟨hmade, ⟨key, hkey⟩, hnet, rfl, ?_, hnothing⟩
  rcases hreport (succeeds_answering _ _ _) with ⟨why, hwhy, houtcome⟩ | hescapes
  · cases hwhy
    exact houtcome
  · exact absurd rfl (hescapes.ne_encode _)

/-- A request whose authenticator is a text of sixteen characters can be made, and the error of its
encoding is not reported. -/
theorem exists_failure_unreported :
    ∃ request draws,
      Packet.create (.integer 1) (.integer 7) (.text "testing123") (.text "0123456789abcdef") []
        ⟨0, []⟩ = .ok (request, draws) ∧
      (answering []).SystemErrors ∧ (answering []).localAddress = .ok () ∧
      (Client.exchange ⟨none, none⟩ loopback request (answering [])).outcome =
        .refused (.field .notByteString) :=
  ⟨_, _, rfl, answering_systemErrors [], rfl, rfl⟩

end Exchange

end Radius
