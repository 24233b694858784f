import Radius.Simulator.Reply
import Radius.Proofs.Packet.Attributes
import Radius.Proofs.Packet.RoundTrip

/-!
# Replies answer requests

`Packet.Answers` : a packet has a response code, the identifier, the secret and the authenticator of
the request, and attributes of byte string values. A response starts as an answer
(`Packet.makeResponse_answers`) and stays one as attributes are added (`Packet.Answers.add`).

Every request that has been decoded gets an answer, whatever its attributes and whatever the users
(`Simulator.reply_answers`).
-/

namespace Radius

namespace Packet

/-- A packet is a response to a request. -/
structure Answers (r request : Packet) : Prop where
  code : ∃ c : Code, r.code = c.toValue ∧ c.isRequest = false
  identifier : r.identifier = request.identifier
  secret : r.secret = request.secret
  authenticator : r.authenticator = request.authenticator
  attributes : r.HoldsBytes

variable {r request : Packet}

theorem Answers.code?_eq (h : r.Answers request) : ∃ c, r.code? = some c ∧ c.isRequest = false := by
  obtain ⟨c, hcode, hresponse⟩ := h.code
  exact ⟨c, by rw [code?, hcode, Code.ofValue?_toValue], hresponse⟩

theorem Answers.add (h : r.Answers request) (type : Value) (b : Bytes) :
    ∃ r', r.add type (.bytes b) = .ok r' ∧ r'.Answers request := by
  obtain ⟨attributes, hattributes⟩ := h.attributes
  refine ⟨_, add_eq hattributes type b, h.code, h.identifier, h.secret, h.authenticator,
    attributes ++ [(type, b)], ?_⟩
  rw [List.map_append]
  rfl

theorem makeResponse_answers {secret authenticator : Bytes}
    (hsecret : request.secret = .bytes secret) (ha : request.authenticator = .bytes authenticator)
    (c : Code) (hc : c.isRequest = false) (entropy : Entropy) :
    ∃ r, request.makeResponse c.toValue entropy = .ok (r, []) ∧ r.Answers request := by
  refine ⟨⟨c.toValue, request.identifier, .bytes secret, .bytes authenticator, .list []⟩, ?_,
    ⟨c, rfl, hc⟩, rfl, hsecret.symm, ha.symm, [], rfl⟩
  rw [makeResponse, hsecret, ha]
  rfl

end Packet

namespace Simulator

open Packet

/-- The response to an access request of an accepted user, or of nobody. -/
def decision (request : Packet) (entropy : Entropy) : Option String → Except PacketError Packet
  | some name => do
    let accept ← respond request .accessAccept entropy ("welcome " ++ name)
    accept.addInteger (.integer Dictionary.sessionTimeout) (.integer sessionSeconds)
  | none => respond request .accessReject entropy "invalid credentials"

/-- An access request is decided on, and the state it holds is echoed. -/
theorem replyToAccess_eq (s : Simulator) (request : Packet) (entropy : Entropy) :
    s.replyToAccess request entropy = (do
      let reply ← decision request entropy (← s.acceptedUser request)
      match ← request.get (.integer Dictionary.state) with
      | .absent => return reply
      | state => reply.add (.integer Dictionary.state) state) := by
  refine bind_congr fun user => ?_
  -- Both branches go on with the same echo, which is one step after the decision.
  cases user with
  | none => rfl
  | some name => exact (bind_assoc _ _ _).symm

/-- Nothing but a request gets a reply. -/
theorem isRequest_of_reply {s : Simulator} {request r : Packet} {entropy : Entropy}
    (h : s.reply request entropy = .ok (some r)) :
    ∃ c, request.code? = some c ∧ c.isRequest = true := by
  rw [reply] at h
  cases hcode : request.code? with
  | none => simp [hcode] at h
  | some c =>
    refine ⟨c, rfl, ?_⟩
    cases c <;> first | rfl | simp [hcode] at h

section Decoded

variable {request : Packet} {attributes : List Attribute} {secret authenticator : Bytes}
  (hsecret : request.secret = .bytes secret) (ha : request.authenticator = .bytes authenticator)
include hsecret ha

theorem respond_answers (c : Code) (hc : c.isRequest = false) (entropy : Entropy)
    (message : String) :
    ∃ r, respond request c entropy message = .ok r ∧ r.Answers request := by
  obtain ⟨r, hr, hanswers⟩ := makeResponse_answers hsecret ha c hc entropy
  rw [respond, hr, lift_operand, mapError_ok, ok_bind]
  exact hanswers.add _ _

theorem decision_answers (entropy : Entropy) (user : Option String) :
    ∃ r, decision request entropy user = .ok r ∧ r.Answers request := by
  cases user with
  | none => exact respond_answers hsecret ha .accessReject rfl entropy _
  | some name =>
    obtain ⟨accept, haccept, hanswers⟩ :=
      respond_answers hsecret ha .accessAccept rfl entropy ("welcome " ++ name)
    rw [decision, haccept, ok_bind]
    exact hanswers.add _ _

variable (hp : request.attributes = .list (attributes.map Attribute.toItem))
include hp

/-- A decoded request has a password or none. -/
theorem passwordOf_total : ∃ password, passwordOf request = .ok (.ofBytes? password) := by
  rw [passwordOf, getPassword_eq hp hsecret ha]
  cases Attribute.first? Dictionary.userPassword attributes with
  | none => exact ⟨none, rfl⟩
  | some hidden =>
    by_cases h : hidden = [] ∨ hidden.length % Password.blockSize ≠ 0
    · exact ⟨none, by simp only [if_pos h]; rfl⟩
    · exact ⟨some _, by simp only [if_neg h]; rfl⟩

/-- The credentials of a decoded request are always decided on. -/
theorem acceptedUser_total (s : Simulator) : ∃ user, s.acceptedUser request = .ok user := by
  obtain ⟨password, hpassword⟩ := passwordOf_total hsecret ha hp
  rw [acceptedUser, getText_eq hp, hpassword]
  cases Attribute.first? Dictionary.userName attributes with
  | none => exact ⟨none, rfl⟩
  | some name =>
    cases password with
    | none => exact ⟨none, rfl⟩
    | some password => exact ⟨_, rfl⟩

theorem replyToAccess_answers (s : Simulator) (entropy : Entropy) :
    ∃ r, s.replyToAccess request entropy = .ok r ∧ r.Answers request := by
  obtain ⟨user, huser⟩ := acceptedUser_total hsecret ha hp s
  obtain ⟨r, hr, hanswers⟩ := decision_answers hsecret ha entropy user
  rw [replyToAccess_eq, huser, ok_bind, hr, ok_bind, get_eq hp, ok_bind]
  cases Attribute.first? Dictionary.state attributes with
  | none => exact ⟨r, rfl, hanswers⟩
  | some state => exact hanswers.add _ state

/-- Every decoded request gets a response. -/
theorem reply_answers (s : Simulator) (entropy : Entropy) {c : Code}
    (hcode : request.code? = some c) (hrequest : c.isRequest = true) :
    ∃ r, s.reply request entropy = .ok (some r) ∧ r.Answers request := by
  rw [reply, hcode]
  cases c with
  | accessRequest =>
    obtain ⟨r, hr, hanswers⟩ := replyToAccess_answers hsecret ha hp s entropy
    exact ⟨r, by simp [hr], hanswers⟩
  | accountingRequest =>
    obtain ⟨r, hr, hanswers⟩ := makeResponse_answers hsecret ha .accountingResponse rfl entropy
    exact ⟨r, by simp [hr], hanswers⟩
  | statusServer =>
    obtain ⟨r, hr, hanswers⟩ :=
      respond_answers hsecret ha .accessAccept rfl entropy "alive"
    exact ⟨r, by simp [hr], hanswers⟩
  | _ => simp [Code.isRequest] at hrequest

/-- What a decoded request gets is a response to it. -/
theorem answers_of_reply {s : Simulator} {entropy : Entropy} {r : Packet}
    (h : s.reply request entropy = .ok (some r)) : r.Answers request := by
  obtain ⟨c, hcode, hrequest⟩ := isRequest_of_reply h
  obtain ⟨r', hr, hanswers⟩ := reply_answers hsecret ha hp s entropy hcode hrequest
  obtain rfl := Option.some.inj (Except.ok.inj (h.symm.trans hr))
  exact hanswers

end Decoded

/-- What is replied to a datagram is a response under the secret it was decoded with, for the
authenticator it carries. -/
theorem answers_datagram {s : Simulator} {data : Bytes} {request r : Packet} {entropy : Entropy}
    (hdecode : decode (.bytes data) s.secret .absent = .ok request)
    (hreply : s.reply request entropy = .ok (some r)) :
    ∃ key, s.secret.toSecret = .ok key ∧ r.secret = .bytes key ∧
      r.authenticator = .bytes (sentAuthenticator data) ∧
      ∃ c, r.code? = some c ∧ c.isRequest = false := by
  obtain ⟨key, f, hkey, hf, -, rfl⟩ := (@decode_eq_ok_iff data s.secret none request).1 hdecode
  have hanswers := answers_of_reply rfl rfl (ofFrame_attributes f key _) hreply
  have hsent := Header.sentAuthenticator_of_ofBytes? (Frame.header_of_ofBytes hf)
  refine ⟨key, hkey, hanswers.secret, ?_, hanswers.code?_eq⟩
  rw [hanswers.authenticator, hsent]
  rfl

end Simulator

end Radius
