import Radius.Proofs.Simulator.Reply

/-!
# Answers to access requests

What answers an access request is known in full (`Simulator.reply_of_acceptedUser`) : the code and
the attributes depend on the accepted user alone (`Simulator.verdict`), and the first state of the
request is added to them. The user who is accepted is one that is known with the password
(`Simulator.Knows`).
-/

namespace Radius

namespace Packet

/-- The response of a code to a request, with attributes. -/
def response (request : Packet) (c : Code) (attributes : List Attribute) : Packet :=
  ⟨c.toValue, request.identifier, request.secret, request.authenticator,
    .list (attributes.map Attribute.toItem)⟩

theorem response_code? (request : Packet) (c : Code) (attributes : List Attribute) :
    (request.response c attributes).code? = some c := Code.ofValue?_toValue c

theorem response_getAll (request : Packet) (c : Code) (attributes : List Attribute) (type : Nat) :
    (request.response c attributes).getAll (.integer type) =
      .ok ((Attribute.allOf type attributes).map .bytes) := getAll_eq rfl type

theorem response_add (request : Packet) (c : Code) (attributes : List Attribute) (type : UInt8)
    (b : Bytes) : (request.response c attributes).add (.integer type.toNat) (.bytes b) =
      .ok (request.response c (attributes ++ [⟨type, b⟩])) := by
  have hitems : (request.response c attributes).attributes =
      .list (attributes.map Attribute.toItem) := rfl
  rw [add_eq hitems]
  simp only [response, List.map_append]
  rfl

end Packet

namespace Simulator

open Packet

/-! ## Who is accepted -/

/-- A user has a password, as a byte string of any kind. -/
def Knows (s : Simulator) (user : String) (password : Bytes) : Prop :=
  ∃ stored, s.users.lookup user = some stored ∧ stored.toBytes? = some password

theorem accepts_text (s : Simulator) (user : String) (password : Bytes) :
    ∃ known, s.accepts (.text user) (.bytes password) = .ok known ∧
      (known = true ↔ s.Knows user password) := by
  refine ⟨_, rfl, ?_⟩
  rw [Value.same_bytes_right_iff, Knows]
  cases s.users.lookup user with
  | none => simp [Value.toBytes?]
  | some stored => simp

/-- Somebody is accepted exactly if the name and the password of a request are known. -/
theorem acceptedUser_of_credentials (s : Simulator) {request : Packet} {user : String}
    {password : Bytes} (huser : request.getText (.integer Dictionary.userName) = .ok (.text user))
    (hpassword : passwordOf request = .ok (.bytes password)) :
    ∃ accepted, s.acceptedUser request = .ok accepted ∧
      (accepted.isSome = true ↔ s.Knows user password) := by
  obtain ⟨known, haccepts, hknown⟩ := s.accepts_text user password
  refine ⟨if known then some user else none, ?_, ?_⟩
  · rw [acceptedUser, huser, hpassword]
    simp only [ok_bind, lift_operand, haccepts, mapError_ok, pure_eq_ok]
  · rw [← hknown]
    cases known <;> simp

theorem acceptedUser_of_knows {s : Simulator} {request : Packet} {user : String} {password : Bytes}
    (huser : request.getText (.integer Dictionary.userName) = .ok (.text user))
    (hpassword : passwordOf request = .ok (.bytes password)) (h : s.Knows user password) :
    s.acceptedUser request = .ok (some user) := by
  obtain ⟨known, haccepts, hknown⟩ := s.accepts_text user password
  rw [acceptedUser, huser, hpassword]
  simp only [ok_bind, lift_operand, haccepts, mapError_ok, pure_eq_ok, hknown.2 h, if_true]

/-! ## What is answered -/

/-- The code and the attributes of the response to an accepted user, or to nobody. -/
def verdict : Option String → Code × List Attribute
  | some name => (.accessAccept,
      [⟨UInt8.ofNat Dictionary.replyMessage, Text.Utf8.encode ("welcome " ++ name).toList⟩,
        ⟨UInt8.ofNat Dictionary.sessionTimeout, Bytes.be32 sessionSeconds⟩])
  | none => (.accessReject,
      [⟨UInt8.ofNat Dictionary.replyMessage, Text.Utf8.encode "invalid credentials".toList⟩])

theorem verdict_accept_iff {user : Option String} :
    (verdict user).1 = .accessAccept ↔ user.isSome = true := by
  cases user <;> simp [verdict]

theorem verdict_reject_iff {user : Option String} :
    (verdict user).1 = .accessReject ↔ ¬user.isSome = true := by
  cases user <;> simp [verdict]

/-- The attributes that echo a state. -/
def echo (state : Option Bytes) : List Attribute :=
  (state.map fun b => ⟨UInt8.ofNat Dictionary.state, b⟩).toList

/-- The verdict holds no state, so the states of an answer are those that are echoed. -/
theorem allOf_state_verdict (user : Option String) (state : Option Bytes) :
    Attribute.allOf Dictionary.state ((verdict user).2 ++ echo state) = state.toList := by
  cases user <;> cases state <;> rfl

variable {request : Packet} {secret authenticator : Bytes} {attributes : List Attribute}
  (hsecret : request.secret = .bytes secret) (ha : request.authenticator = .bytes authenticator)
include hsecret ha

theorem respond_response (c : Code) (entropy : Entropy) (message : String) :
    respond request c entropy message =
      .ok (request.response c
        [⟨UInt8.ofNat Dictionary.replyMessage, Text.Utf8.encode message.toList⟩]) := by
  rw [respond, makeResponse, hsecret, ha, response, hsecret, ha]
  rfl

theorem decision_response (entropy : Entropy) (user : Option String) :
    decision request entropy user =
      .ok (request.response (verdict user).1 (verdict user).2) := by
  cases user with
  | none => exact respond_response hsecret ha .accessReject entropy _
  | some name =>
    rw [decision, respond_response hsecret ha, ok_bind]
    exact response_add request _ _ (UInt8.ofNat Dictionary.sessionTimeout) _

/-- The answer to an access request is the verdict on its user and the first state it holds. -/
theorem reply_of_acceptedUser (s : Simulator) (entropy : Entropy) {user : Option String}
    (hcode : request.code? = some .accessRequest) (huser : s.acceptedUser request = .ok user)
    (hp : request.attributes = .list (attributes.map Attribute.toItem)) :
    s.reply request entropy = .ok (some (request.response (verdict user).1
      ((verdict user).2 ++ echo (Attribute.first? Dictionary.state attributes)))) := by
  have hreply : s.replyToAccess request entropy = .ok (request.response (verdict user).1
      ((verdict user).2 ++ echo (Attribute.first? Dictionary.state attributes))) := by
    rw [replyToAccess_eq, huser, ok_bind, decision_response hsecret ha, ok_bind, get_eq hp,
      ok_bind]
    cases Attribute.first? Dictionary.state attributes with
    | none => rw [echo, Option.map_none, Option.toList_none, List.append_nil]; rfl
    | some state => exact response_add request _ _ (UInt8.ofNat Dictionary.state) state
  rw [reply, hcode]
  dsimp only
  rw [hreply, ok_bind, pure_eq_ok]

/-! ## Answers to other requests -/

theorem reply_of_accounting (s : Simulator) (entropy : Entropy)
    (hcode : request.code? = some .accountingRequest) :
    s.reply request entropy = .ok (some (request.response .accountingResponse [])) := by
  rw [reply, hcode]
  dsimp only
  rw [makeResponse, hsecret, ha, response, hsecret, ha]
  rfl

theorem reply_of_status (s : Simulator) (entropy : Entropy)
    (hcode : request.code? = some .statusServer) :
    s.reply request entropy = .ok (some (request.response .accessAccept
      [⟨UInt8.ofNat Dictionary.replyMessage, Text.Utf8.encode "alive".toList⟩])) := by
  rw [reply, hcode]
  dsimp only
  rw [respond_response hsecret ha, ok_bind, pure_eq_ok]

end Simulator

end Radius
