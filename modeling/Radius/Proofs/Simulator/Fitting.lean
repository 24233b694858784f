import Radius.Proofs.Packet.Validity
import Radius.Proofs.Simulator.Access

/-!
# Replies that fit

A reply holds at most three attributes, so it fits a packet if each of them fits
(`Packet.encode_response`). The state that is echoed came in an attribute and fits, and so do the
fixed messages. The message that welcomes an accepted user (`Simulator.greeting`) repeats the name
of the user : it need not fit, and then the reply has no wire form (`Simulator.reply_too_large`).
With a greeting that fits, or none, every reply has one (`Simulator.reply_encodes`).
-/

namespace Radius

/-- An attribute that can be written as it is. -/
def Attribute.Fits (a : Attribute) : Prop := a.type ≠ 0 ∧ a.value.length ≤ maxValueSize

namespace Packet

/-- The request in a frame, as a simulator reads it. -/
def received (f : Frame) (key : Bytes) : Packet := ofFrame f key (.bytes f.header.authenticator)

/-- What a datagram is decoded to is the request in the frame it holds. -/
theorem frame_of_decode {data : Bytes} {secret : Value} {request : Packet}
    (h : decode (.bytes data) secret .absent = .ok request) :
    ∃ key f, Frame.ofBytes data = .ok f ∧ request = received f key := by
  obtain ⟨key, f, -, hf, -, rfl⟩ := (@decode_eq_ok_iff data secret none request).1 h
  exact ⟨key, f, hf, rfl⟩

/-! ## Responses that fit -/

/-- An attribute as the pair of its type and its value. -/
def pairOf (a : Attribute) : Value × Value := (.integer a.type.toNat, .bytes a.value)

theorem wireSize_le {pairs : List (Value × Value)}
    (h : ∀ a ∈ pairs, a.2.byteCount ≤ Attribute.maxValueSize) :
    wireSize pairs ≤
      Header.size + pairs.length * (Attribute.headerSize + Attribute.maxValueSize) := by
  rw [wireSize]
  refine Nat.add_le_add_left ?_ _
  induction pairs with
  | nil => exact Nat.zero_le _
  | cons a rest ih =>
    obtain ⟨ha, hrest⟩ := List.forall_mem_cons.1 h
    have hsum := ih hrest
    rw [List.map_cons, List.sum_cons, List.length_cons, Nat.add_mul, Nat.one_mul]
    omega

theorem response_pairs (request : Packet) (c : Code) (attributes : List Attribute) :
    (request.response c attributes).attributes = attributeList (attributes.map pairOf) := by
  rw [attributeList, List.map_map]
  rfl

section Response

variable {f : Frame} (hf : f.Sound) {key : Bytes} {c : Code}
include hf

variable (key c) in
/-- A response to the request in a frame has the fields it needs. -/
theorem response_checks (attributes : List Attribute) :
    ((received f key).response c attributes).WellTyped ∧
      ((received f key).response c attributes).HasCode ∧
      ((received f key).response c attributes).HasIdentifier ∧
      ((received f key).response c attributes).HasAuthenticator := by
  have hbyte : (f.header.identifier.toNat : Int) ≤ 255 :=
    Int.ofNat_le.2 (Nat.le_of_lt_succ f.header.identifier.toNat_lt)
  exact ⟨⟨⟨_, rfl⟩, ⟨_, rfl⟩, ⟨_, rfl⟩, ⟨_, rfl⟩, _, response_pairs ..⟩, ⟨c, rfl⟩,
    ⟨_, rfl, Int.natCast_nonneg _, hbyte⟩, ⟨_, rfl, hf.authenticator⟩⟩

/-- A response of a few attributes that fit is encoded. -/
theorem encode_response {attributes : List Attribute} (hcount : attributes.length ≤ 3)
    (hall : ∀ a ∈ attributes, a.Fits) :
    ∃ w, ((received f key).response c attributes).encode = .ok w := by
  obtain ⟨htyped, hcode, hid, hauth⟩ := response_checks hf key c attributes
  have hsizes : ∀ a ∈ attributes.map pairOf, a.2.byteCount ≤ Attribute.maxValueSize :=
    List.forall_mem_map.2 fun a ha => (hall a ha).2
  have hsize := wireSize_le hsizes
  rw [List.length_map] at hsize
  refine htyped.encode_of_encodable (response_pairs ..) ⟨hcode, hid, hauth, ?_, ?_⟩
  · refine List.forall_mem_map.2 fun a ha => ?_
    exact ⟨Value.isBetween_of_ne_zero (hall a ha).1, _, rfl, (hall a ha).2⟩
  · refine Nat.le_trans hsize ?_
    simp only [Header.size, Attribute.headerSize, Attribute.maxValueSize, maxPacketSize]
    omega

/-- A response whose first attribute is too large is not encoded. -/
theorem encode_response_too_large {a : Attribute} (rest : List Attribute) (htype : a.type ≠ 0)
    (hsize : Attribute.maxValueSize < a.value.length) :
    ((received f key).response c (a :: rest)).encode =
      .error (.encode (.valueTooLarge (.integer a.type.toNat) a.value.length)) := by
  obtain ⟨htyped, hcode, hid, hauth⟩ := response_checks hf key c (a :: rest)
  have hfirst : Offends (pairOf a) (.valueTooLarge (.integer a.type.toNat) a.value.length) :=
    .size rfl (Value.isBetween_of_ne_zero htype) hsize
  have hfront : ∀ x ∈ ([] : List (Value × Value)), Writable x := by simp
  exact htyped.encode_of_refused (response_pairs ..)
    (.attributes hcode hid hauth List.map_cons hfront hfirst)

end Response

end Packet

namespace Simulator

open Packet

/-! ## Replies that fit -/

/-- The message that welcomes a user. -/
def greeting (name : String) : Bytes := Text.Utf8.encode ("welcome " ++ name).toList

/-- A request for access is accepted for the user of a name. -/
structure Welcomes (s : Simulator) (request : Packet) (name : String) : Prop where
  code : request.code? = some .accessRequest
  user : s.acceptedUser request = .ok (some name)

theorem echo_fits {f : Frame} (hf : f.Sound) :
    ∀ a ∈ echo (Attribute.first? Dictionary.state f.attributes), a.Fits := by
  intro a ha
  cases hstate : Attribute.first? Dictionary.state f.attributes with
  | none => simp [hstate, echo] at ha
  | some state =>
    have htype : UInt8.ofNat Dictionary.state ≠ 0 := by decide
    rw [hstate] at ha
    obtain rfl := List.mem_singleton.1 ha
    obtain ⟨x, hfind, rfl⟩ := Option.map_eq_some_iff.1 hstate
    have hvalue := hf.values (List.mem_of_find?_eq_some hfind)
    exact ⟨htype, hvalue⟩

/-- The verdict fits if the greeting of an accepted user does. -/
theorem verdict_fits {user : Option String}
    (h : ∀ name, user = some name → (greeting name).length ≤ Attribute.maxValueSize) :
    ∀ a ∈ (verdict user).2, a.Fits := by
  cases user with
  | none =>
    intro a ha
    obtain rfl := List.mem_singleton.1 ha
    exact ⟨by decide, by decide⟩
  | some name =>
    have htype : UInt8.ofNat Dictionary.replyMessage ≠ 0 := by decide
    have htimeout :
        Attribute.Fits ⟨UInt8.ofNat Dictionary.sessionTimeout, Bytes.be32 sessionSeconds⟩ :=
      ⟨by decide, by decide⟩
    exact List.forall_mem_cons.2 ⟨⟨htype, h name rfl⟩, List.forall_mem_singleton.2 htimeout⟩

theorem length_verdict_echo (user : Option String) (state : Option Bytes) :
    ((verdict user).2 ++ echo state).length ≤ 3 := by
  cases user <;> cases state <;> simp [verdict, echo]

section Request

variable {s : Simulator} {f : Frame} (hf : f.Sound) {key : Bytes}
include hf

/-- The reply to a request has a wire form if the greeting, if there is one, fits. -/
theorem reply_encodes {c : Code} (hcode : (received f key).code? = some c)
    (hrequest : c.isRequest = true)
    (hfits : ∀ name, s.Welcomes (received f key) name →
      (greeting name).length ≤ Attribute.maxValueSize) :
    ∃ r wire, s.reply (received f key) noEntropy = .ok (some r) ∧ r.encode = .ok wire := by
  have hitems := ofFrame_attributes f key (.bytes f.header.authenticator)
  cases c with
  | accessRequest =>
    obtain ⟨user, huser⟩ := acceptedUser_total rfl rfl hitems s
    have hverdict : ∀ a ∈ (verdict user).2, a.Fits :=
      verdict_fits fun name hname => hfits name ⟨hcode, hname ▸ huser⟩
    have hall := List.forall_mem_append.2 ⟨hverdict, echo_fits hf⟩
    obtain ⟨wire, hwire⟩ := encode_response hf (length_verdict_echo ..) hall
    exact ⟨_, wire, reply_of_acceptedUser rfl rfl s noEntropy hcode huser hitems, hwire⟩
  | accountingRequest =>
    obtain ⟨wire, hwire⟩ := encode_response hf (by decide) (List.forall_mem_nil _)
    exact ⟨_, wire, reply_of_accounting rfl rfl s noEntropy hcode, hwire⟩
  | statusServer =>
    have hall : Attribute.Fits
        ⟨UInt8.ofNat Dictionary.replyMessage, Text.Utf8.encode "alive".toList⟩ :=
      ⟨by decide, by decide⟩
    obtain ⟨wire, hwire⟩ := encode_response hf (by decide) (List.forall_mem_singleton.2 hall)
    exact ⟨_, wire, reply_of_status rfl rfl s noEntropy hcode, hwire⟩
  | _ => simp [Code.isRequest] at hrequest

/-- The reply to a request has no wire form if its greeting is too large. -/
theorem reply_too_large {name : String} (hname : s.Welcomes (received f key) name)
    (hsize : Attribute.maxValueSize < (greeting name).length) :
    ∃ r, s.reply (received f key) noEntropy = .ok (some r) ∧
      r.encode = .error (.encode
        (.valueTooLarge (.integer Dictionary.replyMessage) (greeting name).length)) := by
  have hitems := ofFrame_attributes f key (.bytes f.header.authenticator)
  have htype : UInt8.ofNat Dictionary.replyMessage ≠ 0 := by decide
  exact ⟨_, reply_of_acceptedUser rfl rfl s noEntropy hname.code hname.user hitems,
    encode_response_too_large hf _ htype hsize⟩

end Request

end Simulator

end Radius
