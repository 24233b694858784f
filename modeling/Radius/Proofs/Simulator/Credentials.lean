import Radius.Proofs.Packet.Additions
import Radius.Proofs.Packet.StoredPassword
import Radius.Proofs.Simulator.Access
import Radius.Proofs.Simulator.Agreement
import Radius.Proofs.Text.Utf8

/-!
# Authentication through the wire

A client asks for access with a user name and a password (`Packet.login`), and may add further
attributes to the request (`Packet.addAll`). Whatever is added, a simulator that has the secret of
the request accepts it exactly if it knows the user with the password, less the zeros at its end,
and echoes the first state that was added (`Simulator.login_decided`).

The name and the password come first, so they are what the simulator finds
(`Packet.Sends.first?_credentials`).
-/

namespace Radius

namespace Packet

/-! ## Requests for access -/

/-- Add the credentials of a user to a request. -/
def login (request : Packet) (user : String) (password : Value) : Except PacketError Packet := do
  (← request.addText (.integer Dictionary.userName) (.text user)).addPassword password

/-- The attributes of a user name and a hidden password. -/
def credentials (user : String) (hidden : Bytes) : List (Value × Bytes) :=
  [(.integer Dictionary.userName, Text.Utf8.encode user.toList),
    (.integer Dictionary.userPassword, hidden)]

theorem login_eq {request : Packet} {key a password : Bytes} {given : Value}
    (hsecret : request.secret = .bytes key) (ha : request.authenticator = .bytes a)
    (hempty : request.attributes = .list []) (user : String)
    (hpassword : given.toSecret = .ok password) (hsize : password.length ≤ Password.maxSize) :
    request.login user given = .ok (request.holding
      (credentials user (Password.hide key a (Password.padded password)))) := by
  have hname : request.addText (.integer Dictionary.userName) (.text user) =
      .ok (request.holding [(.integer Dictionary.userName, Text.Utf8.encode user.toList)]) :=
    add_eq hempty _ _
  rw [login, hname, ok_bind]
  refine (addPassword_eq ?_ ?_ hpassword hsize).trans rfl
  · exact hsecret
  · exact ha

section Login

variable {p : Packet} {user : String} {hidden : Bytes} {added : List (Value × Bytes)} {f : Frame}
  (h : (p.holding (credentials user hidden ++ added)).Sends f)
include h

/-- The credentials are the first attributes of their types. -/
theorem Sends.first?_credentials :
    Attribute.first? Dictionary.userName f.attributes = some (Text.Utf8.encode user.toList) ∧
      Attribute.first? Dictionary.userPassword f.attributes = some hidden := by
  have hname : Except.ok (Value.ofBytes? (some (Text.Utf8.encode user.toList))) = _ :=
    h.get_eq Dictionary.userName
  have hpassword : Except.ok (Value.ofBytes? (some hidden)) = _ :=
    h.get_eq Dictionary.userPassword
  exact ⟨(Value.ofBytes?_injective (Except.ok.inj hname)).symm,
    (Value.ofBytes?_injective (Except.ok.inj hpassword)).symm⟩

end Login

end Packet

namespace Simulator

open Packet

/-- The credentials of a request are read as the client gave them, the password without the zeros
at its end. -/
theorem read_credentials {received : Packet} {attributes : List Attribute} {key a : Bytes}
    {user : String} {password : Bytes} (hsecret : received.secret = .bytes key)
    (ha : received.authenticator = .bytes a)
    (hitems : received.attributes = .list (attributes.map Attribute.toItem))
    (hname : Attribute.first? Dictionary.userName attributes =
      some (Text.Utf8.encode user.toList))
    (hhidden : Attribute.first? Dictionary.userPassword attributes =
      some (Password.hide key a (Password.padded password))) :
    received.getText (.integer Dictionary.userName) = .ok (.text user) ∧
      passwordOf received = .ok (.bytes (Bytes.trimZeros password)) := by
  constructor
  · rw [getText_eq hitems, hname]
    dsimp only
    rw [Text.Utf8.decode_encode, String.ofList_toList]
  · have hget := get_eq hitems Dictionary.userPassword
    rw [hhidden] at hget
    rw [passwordOf, getPassword_of_hidden hsecret ha hget]

/-- A request for access of a user, with any attributes added after it : a simulator of the same
secret decodes what the request is encoded to. It accepts the request exactly if it knows the user
with the password, less the zeros at its end, and rejects it otherwise. The reply holds the first
state of the request and no other, and none if the request has none. -/
theorem login_decided {request : Packet} {key a password : Bytes} {given : Value} {s : Simulator}
    (user : String) (entropy : Entropy) (hcode : request.code? = some .accessRequest)
    (hsecret : request.secret = .bytes key) (ha : request.authenticator = .bytes a)
    (hempty : request.attributes = .list []) (hpassword : given.toSecret = .ok password)
    (hsize : password.length ≤ Password.maxSize) (hs : s.secret.same request.secret = true) :
    ∃ p, request.login user given = .ok p ∧
      ∀ further q w, p.addAll further = .ok q → q.encode = .ok w →
        ∃ received r, decode (.bytes w) s.secret .absent = .ok received ∧
          s.reply received entropy = .ok (some r) ∧
          (r.code? = some .accessAccept ↔ s.Knows user (Bytes.trimZeros password)) ∧
          (r.code? = some .accessReject ↔ ¬s.Knows user (Bytes.trimZeros password)) ∧
          ∃ state, q.get (.integer Dictionary.state) = .ok (.ofBytes? state) ∧
            r.getAll (.integer Dictionary.state) = .ok (state.toList.map .bytes) := by
  refine ⟨_, login_eq hsecret ha hempty user hpassword hsize, fun further q w hq hw => ?_⟩
  obtain ⟨added, rfl⟩ := addAll_holding_eq_ok hq
  obtain ⟨f, h, rfl⟩ := encode_eq_ok_iff.1 hw
  -- The simulator reads the frame that was sent, with the authenticator that hid the password.
  have hf : f.code = .accessRequest := Option.some.inj (h.code.symm.trans hcode)
  have hauth : f.header.authenticator = a := h.authenticator_eq (by rw [hf]; rfl) ha
  have hdecode := h.decode_request hsecret hs
  rw [hauth] at hdecode
  have hitems := ofFrame_attributes f key (.bytes a)
  have hreceived : (ofFrame f key (.bytes a)).code? = some .accessRequest := by
    rw [← hf]
    exact Code.ofValue?_toValue f.code
  obtain ⟨hname, hhidden⟩ := h.first?_credentials
  obtain ⟨huser, hrevealed⟩ := read_credentials rfl rfl hitems hname hhidden
  have hstate := h.get_eq Dictionary.state
  obtain ⟨accepted, haccepted, hknown⟩ := s.acceptedUser_of_credentials huser hrevealed
  refine ⟨_, _, hdecode, reply_of_acceptedUser rfl rfl s entropy hreceived haccepted hitems, ?_, ?_,
    _, hstate, ?_⟩
  · rw [response_code?, Option.some_inj, verdict_accept_iff, hknown]
  · rw [response_code?, Option.some_inj, verdict_reject_iff, hknown]
  · rw [response_getAll, allOf_state_verdict]

/-- A request for access that holds no attributes yet. -/
def blankAccess : Packet where
  code := .integer 1
  identifier := .integer 9
  secret := standardSecret
  authenticator := .bytes (Bytes.zeros authenticatorSize)
  attributes := .list []

/-- What goes on the wire for a user with a password and a state. -/
def aliceWire : Bytes :=
  [1, 9, 0, 49] ++ Bytes.zeros authenticatorSize ++
    [1, 7, 0x61, 0x6c, 0x69, 0x63, 0x65] ++
    [2, 18, 0xca, 0x78, 0, 0xf9, 0xc3, 0x27, 0x3e, 0x34, 0xc5, 0x12, 0xd4, 0xea, 0x6a, 0xbd, 0xef,
      0xd7] ++ [24, 4, 1, 2]

theorem encode_alice :
    (blankAccess.login "alice" (.text "wonderland") >>= fun p =>
      p.addAll [(.integer Dictionary.state, .bytes [1, 2])] >>= encode) = .ok aliceWire := by
  decide +kernel

theorem login_decided_alice :
    ∃ p q, blankAccess.login "alice" (.text "wonderland") = .ok p ∧
      p.addAll [(.integer Dictionary.state, .bytes [1, 2])] = .ok q ∧ q.encode = .ok aliceWire ∧
        ∃ received r, decode (.bytes aliceWire) standardSecret .absent = .ok received ∧
          (start standardSecret standardUsers {}).reply received noEntropy = .ok (some r) ∧
          r.code? = some .accessAccept ∧
          ∃ state, q.get (.integer Dictionary.state) = .ok (.ofBytes? state) ∧
            r.getAll (.integer Dictionary.state) = .ok (state.toList.map .bytes) := by
  have hpassword : (Value.text "wonderland").toSecret =
    .ok (Text.Utf8.encode "wonderland".toList) := rfl
  have hsize : (Text.Utf8.encode "wonderland".toList).length ≤ Password.maxSize := by decide
  have hs : (start standardSecret standardUsers {}).secret.same blankAccess.secret = true :=
    Value.same_bytes_iff.2 rfl
  obtain ⟨p, hp, hdecided⟩ :=
    login_decided "alice" noEntropy rfl rfl rfl rfl hpassword hsize hs
  obtain ⟨p', hp', hrest⟩ := bind_eq_ok_iff.1 encode_alice
  obtain ⟨q, hq, hw⟩ := bind_eq_ok_iff.1 hrest
  obtain rfl := Except.ok.inj (hp.symm.trans hp')
  obtain ⟨received, r, hdecode, hreply, haccept, -, hstate⟩ := hdecided _ q _ hq hw
  have hknown : (start standardSecret standardUsers {}).Knows "alice"
      (Bytes.trimZeros (Text.Utf8.encode "wonderland".toList)) := ⟨_, rfl, by decide⟩
  exact ⟨p, q, hp, hq, hw, received, r, hdecode, hreply, haccept.2 hknown, hstate⟩

end Simulator

end Radius
