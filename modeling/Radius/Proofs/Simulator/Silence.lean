import Radius.Proofs.Simulator.Fitting
import Radius.Proofs.Simulator.Handling

/-!
# Nothing answers an answer

A simulator that neither drops a datagram nor fails on it answers exactly if it decodes a request.
What it sends then is one of the replies to the code of the request (`Code.replies`), with the
identifier of the request and a length field that counts its size (`Datagram.Answers`), also if it
is corrupted (`Datagram.Answers.transmitted`).

No reply is a request, and a datagram of no request's code is never answered, whatever the secret
(`Simulator.sent_eq_none_of_asks`). So every arrival of a datagram at a simulator makes less of the
traffic (`Simulator.Arrival.load_lt`), and any run of arrivals ends after at most two for each
datagram that was there (`Simulator.Arrivals.add_load_le`).
-/

namespace Radius

namespace Code

/-- The codes that packets of a code may be answered with. -/
def replies : Code → List Code
  | accessRequest => [accessAccept, accessReject]
  | accountingRequest => [accountingResponse]
  | statusServer => [accessAccept]
  | _ => []

/-- No reply is a request. -/
theorem isRequest_of_mem_replies {a c : Code} (h : a ∈ c.replies) : a.isRequest = false := by
  cases c <;> simp only [replies, List.mem_cons, List.not_mem_nil, or_false] at h
  case accessRequest => rcases h with rfl | rfl <;> rfl
  case accountingRequest | statusServer => rw [h]; rfl

end Code

namespace Datagram

/-- Whether the first byte of a datagram is the code of a request. -/
def asks (data : Bytes) : Bool :=
  (data.head?.bind fun b => Code.ofNumber? b.toNat).any Code.isRequest

theorem asks_of_head? {data : Bytes} {c : Code} (h : data.head? = some (UInt8.ofNat c.number)) :
    asks data = c.isRequest := by
  rw [asks, h, Option.bind_some, Code.toNat_ofNat_number, Code.ofNumber?_number, Option.any_some]

/-- A datagram answers a request of a code : it has a code that answers this one, the identifier of
the request, and a length field that counts its size. -/
structure Answers (c : Code) (request answer : Bytes) : Prop where
  code : ∃ a ∈ c.replies, answer.head? = some (UInt8.ofNat a.number)
  identifier : ∃ i, request[1]? = some i ∧ answer[1]? = some i
  length : lengthField answer = answer.length

variable {c : Code} {request answer : Bytes}

/-- An answer does not ask. -/
theorem Answers.asks_eq (h : Answers c request answer) : asks answer = false := by
  obtain ⟨a, ha, hhead⟩ := h.code
  rw [asks_of_head? hhead]
  exact Code.isRequest_of_mem_replies ha

theorem Answers.corrupt (h : Answers c request answer) :
    Answers c request (Simulator.corrupt answer) := by
  have hfront : (Simulator.corrupt answer).take 4 = answer.take 4 := by
    refine List.ext_getElem? fun i => ?_
    by_cases hi : i < 4
    · rw [List.getElem?_take_of_lt hi, List.getElem?_take_of_lt hi,
        Simulator.getElem?_corrupt_outside answer i (.inl hi)]
    · have hend := Nat.not_lt.1 hi
      rw [List.getElem?_take_eq_none hend, List.getElem?_take_eq_none hend]
  refine ⟨?_, ?_, ?_⟩
  · rw [List.head?_eq_getElem?, Simulator.getElem?_corrupt_outside answer 0 (.inl (by decide)),
      ← List.head?_eq_getElem?]
    exact h.code
  · rw [Simulator.getElem?_corrupt_outside answer 1 (.inl (by decide))]
    exact h.identifier
  · rw [Frame.lengthField_eq_of_take_eq (Nat.le_refl 4) hfront, Simulator.length_corrupt]
    exact h.length

theorem Answers.transmitted (h : Answers c request answer) (corrupted : Bool) :
    Answers c request (Simulator.transmitted answer corrupted) := by
  rw [Simulator.transmitted]
  split
  · exact h.corrupt
  · exact h

end Datagram

namespace Simulator

open Packet

/-! ## Answers on the wire -/

/-- A simulator decodes a datagram as a request of a code. -/
def Hears (s : Simulator) (data : Bytes) (c : Code) : Prop :=
  ∃ request, decode (.bytes data) s.secret .absent = .ok request ∧ request.code? = some c ∧
    c.isRequest = true

section Decoded

variable {request : Packet} {attributes : List Attribute} {secret authenticator : Bytes}
  (hsecret : request.secret = .bytes secret) (ha : request.authenticator = .bytes authenticator)
  (hp : request.attributes = .list (attributes.map Attribute.toItem))
include hsecret ha hp

/-- The code of a reply answers the code of the request. -/
theorem code?_of_reply {s : Simulator} {entropy : Entropy} {r : Packet}
    (h : s.reply request entropy = .ok (some r)) :
    ∃ c, request.code? = some c ∧ c.isRequest = true ∧ ∃ a ∈ c.replies, r.code? = some a := by
  obtain ⟨c, hcode, hrequest⟩ := isRequest_of_reply h
  refine ⟨c, hcode, hrequest, ?_⟩
  cases c with
  | accessRequest =>
    obtain ⟨user, huser⟩ := acceptedUser_total hsecret ha hp s
    have hreply := reply_of_acceptedUser hsecret ha s entropy hcode huser hp
    obtain rfl := Option.some.inj (Except.ok.inj (h.symm.trans hreply))
    refine ⟨(verdict user).1, ?_, response_code? ..⟩
    cases user <;> simp [verdict, Code.replies]
  | accountingRequest =>
    have hreply := reply_of_accounting hsecret ha s entropy hcode
    obtain rfl := Option.some.inj (Except.ok.inj (h.symm.trans hreply))
    exact ⟨_, List.mem_singleton_self _, response_code? ..⟩
  | statusServer =>
    have hreply := reply_of_status hsecret ha s entropy hcode
    obtain rfl := Option.some.inj (Except.ok.inj (h.symm.trans hreply))
    exact ⟨_, List.mem_singleton_self _, response_code? ..⟩
  | _ => cases hrequest

end Decoded

variable {s : Simulator} {data : Bytes} {sender : Peer} {chance : Chance}

/-- The wire form of a reply answers the datagram. -/
theorem answers_of_encode {request r : Packet} {wire : Bytes} {entropy : Entropy}
    (hdecode : decode (.bytes data) s.secret .absent = .ok request)
    (hreply : s.reply request entropy = .ok (some r)) (hwire : r.encode = .ok wire) :
    ∃ c, s.Hears data c ∧ Datagram.Answers c data wire := by
  obtain ⟨key, f, hf, rfl⟩ := frame_of_decode hdecode
  have hitems := ofFrame_attributes f key (.bytes f.header.authenticator)
  obtain ⟨c, hcode, hrequest, a, ha, hr⟩ := code?_of_reply rfl rfl hitems hreply
  obtain ⟨g, hg, rfl⟩ := encode_eq_ok_iff.1 hwire
  obtain rfl : g.code = a := Option.some.inj (hg.code.symm.trans hr)
  have hframe := hg.sound.ofBytes_toBytes
  have hheader := Frame.header_of_ofBytes hframe
  refine ⟨c, ⟨_, hdecode, hcode, hrequest⟩, ⟨g.code, ha, Frame.head?_of_ofBytes hframe⟩,
    ⟨f.header.identifier, Header.getElem?_one_of_ofBytes? (Frame.header_of_ofBytes hf), ?_⟩, ?_⟩
  · have hid := hg.identifier
    rw [(answers_of_reply rfl rfl hitems hreply).identifier] at hid
    have hnumber : (f.header.identifier.toNat : Int) = g.header.identifier.toNat :=
      Option.some.inj hid
    rw [Header.getElem?_one_of_ofBytes? hheader, UInt8.toNat_inj.1 (Int.ofNat_inj.1 hnumber)]
  · rw [Frame.lengthField_of_ofBytes hframe, hg.sound.length, Frame.length_toBytes]

/-- What is sent for a datagram goes back to where that came from, and answers it. -/
theorem answers_of_sent {d : Dispatch} (h : (s.receive (.bytes data) sender chance).sent = some d) :
    ∃ c, s.Hears data c ∧ d.destination = sender ∧ Datagram.Answers c data d.data := by
  obtain ⟨_, request, r, wire, corrupted, _, delay, -, hdecode, hreply, hwire, -, -, rfl⟩ :=
    receive_sent_iff.1 h
  obtain ⟨c, hhears, hanswers⟩ := answers_of_encode hdecode hreply hwire
  exact ⟨c, hhears, rfl, hanswers.transmitted corrupted⟩

/-- A request gets an answer or cannot be answered. -/
theorem Hears.replyTo_ne_none {c : Code} (h : s.Hears data c) :
    s.replyTo (.bytes data) ≠ .ok none := by
  obtain ⟨request, hdecode, hcode, hrequest⟩ := h
  obtain ⟨key, f, -, rfl⟩ := frame_of_decode hdecode
  have hitems : (received f key).attributes = .list (f.attributes.map Attribute.toItem) :=
    ofFrame_attributes f key _
  obtain ⟨r, hr, -⟩ := reply_answers rfl rfl hitems s noEntropy hcode hrequest
  rw [replyTo, hdecode]
  dsimp only
  rw [hr, ok_bind]
  dsimp only
  cases r.encode <;> simp

/-- A request that is neither dropped nor failed on is answered. -/
theorem Hears.sent {c : Code} {kept : Chance} (h : s.Hears data c)
    (hkept : s.faults.dropped chance = .ok (false, kept))
    (herror : (s.receive (.bytes data) sender chance).error = none) :
    ∃ d, (s.receive (.bytes data) sender chance).sent = some d := by
  have hhandles := handles_receive s (.bytes data) sender chance
  generalize s.receive (.bytes data) sender chance = handled at hhandles herror ⊢
  cases hhandles with
  | settled hsettles =>
    cases hsettles with
    | dropped hdrop => cases hkept.symm.trans hdrop
    | failed => cases herror
    | ignored _ hreply => exact (h.replyTo_ne_none hreply).elim
    | sent => exact ⟨_, rfl⟩
  | undrawn | uncorrupted | untimed => cases herror

/-! ## Silence -/

/-- A datagram that is heard has the code of a request. -/
theorem Hears.asks_eq {c : Code} (h : s.Hears data c) : Datagram.asks data = true := by
  obtain ⟨request, hdecode, hcode, hrequest⟩ := h
  obtain ⟨key, f, hf, rfl⟩ := frame_of_decode hdecode
  obtain rfl : f.code = c := Option.some.inj ((Code.ofValue?_toValue f.code).symm.trans hcode)
  rw [Datagram.asks_of_head? (Frame.head?_of_ofBytes hf), hrequest]

/-- Nothing is sent for a datagram that does not have the code of a request. -/
theorem sent_eq_none_of_asks (h : Datagram.asks data = false) :
    (s.receive (.bytes data) sender chance).sent = none := by
  refine Option.eq_none_iff_forall_ne_some.2 fun d hd => ?_
  obtain ⟨c, hhears, -⟩ := answers_of_sent hd
  cases h.symm.trans hhears.asks_eq

/-! ## Traffic -/

/-- The bytes that are sent for a datagram. -/
def outgoing (s : Simulator) (data : Bytes) (sender : Peer) (chance : Chance) : List Bytes :=
  ((s.receive (.bytes data) sender chance).sent.map Dispatch.data).toList

/-- One of the datagrams on their way arrives at some simulator, in any state, and what that sends
is on its way then. -/
inductive Arrival : List Bytes → List Bytes → Prop
  | handled (s : Simulator) (sender : Peer) (chance : Chance) (before after : List Bytes)
      (data : Bytes) :
      Arrival (before ++ data :: after) (before ++ after ++ s.outgoing data sender chance)

/-- A number of arrivals, one after the other. -/
inductive Arrivals : Nat → List Bytes → List Bytes → Prop
  | none (flight : List Bytes) : Arrivals 0 flight flight
  | more {n : Nat} {flight middle rest : List Bytes} (h : Arrivals n flight middle)
      (harrival : Arrival middle rest) : Arrivals (n + 1) flight rest

/-- The arrivals that datagrams can lead to at most : one for each, and one more for its answer if
it is a request. -/
def load (flight : List Bytes) : Nat := flight.length + flight.countP Datagram.asks

theorem load_append (flight rest : List Bytes) :
    load (flight ++ rest) = load flight + load rest := by
  simp only [load, List.length_append, List.countP_append]
  omega

theorem load_le (flight : List Bytes) : load flight ≤ 2 * flight.length := by
  have := List.countP_le_length (p := Datagram.asks) (l := flight)
  rw [load]
  omega

/-- What is sent for a datagram weighs less than it. -/
theorem load_outgoing_lt (s : Simulator) (data : Bytes) (sender : Peer) (chance : Chance) :
    load (s.outgoing data sender chance) < load [data] := by
  cases hsent : (s.receive (.bytes data) sender chance).sent with
  | none =>
    rw [outgoing, hsent]
    exact Nat.lt_of_lt_of_le Nat.one_pos (Nat.le_add_right _ _)
  | some d =>
    obtain ⟨c, hhears, -, hanswers⟩ := answers_of_sent hsent
    simp [outgoing, hsent, load, hanswers.asks_eq, hhears.asks_eq]

/-- Every arrival makes less of the traffic. -/
theorem Arrival.load_lt {flight rest : List Bytes} (h : Arrival flight rest) :
    load rest < load flight := by
  cases h with
  | handled s sender chance before after data =>
    have hless := load_outgoing_lt s data sender chance
    rw [← List.singleton_append]
    simp only [load_append]
    omega

/-- A run of arrivals uses up the load of the traffic it begins with. -/
theorem Arrivals.add_load_le {n : Nat} {flight rest : List Bytes} (h : Arrivals n flight rest) :
    n + load rest ≤ load flight := by
  induction h with
  | none => omega
  | more _ harrival ih =>
    have := harrival.load_lt
    omega

/-- A simulator that neither drops a datagram nor fails on it sends something exactly if it decodes
a request : one datagram, to where the request came from, that answers it. Nothing is sent for what
any simulator sent, so any run of arrivals at simulators ends. -/
theorem requests_alone_answered :
    (∀ (s : Simulator) (data : Bytes) (sender : Peer) (chance kept : Chance),
        s.faults.dropped chance = .ok (false, kept) →
        (s.receive (.bytes data) sender chance).error = none →
          ((∃ d, (s.receive (.bytes data) sender chance).sent = some d) ↔ ∃ c, s.Hears data c) ∧
            ∀ d, (s.receive (.bytes data) sender chance).sent = some d →
              ∃ c, s.Hears data c ∧ d.destination = sender ∧ Datagram.Answers c data d.data) ∧
      (∀ (s : Simulator) (data : Bytes) (sender : Peer) (chance : Chance) (d : Dispatch),
        (s.receive (.bytes data) sender chance).sent = some d →
          ∀ (s' : Simulator) (sender' : Peer) (chance' : Chance),
            (s'.receive (.bytes d.data) sender' chance').sent = none) ∧
      ∀ (n : Nat) (flight rest : List Bytes), Arrivals n flight rest → n ≤ 2 * flight.length := by
  refine ⟨fun s data sender chance kept hkept herror => ⟨⟨?_, ?_⟩, fun _ => answers_of_sent⟩,
    fun s data sender chance d hd _ _ _ => ?_, fun n flight rest h => ?_⟩
  · rintro ⟨d, hd⟩
    obtain ⟨c, hhears, -⟩ := answers_of_sent hd
    exact ⟨c, hhears⟩
  · rintro ⟨c, hhears⟩
    exact hhears.sent hkept herror
  · obtain ⟨c, -, -, hanswers⟩ := answers_of_sent hd
    exact sent_eq_none_of_asks hanswers.asks_eq
  · have := h.add_load_le
    have := load_le flight
    omega

/-- A simulator that corrupts whatever it sends. -/
def spoiler : Simulator := start sessionStart.secret standardUsers { corruptRate := .integer 1 }

/-- A client of the simulator. -/
def visitor : Peer := ⟨"192.0.2.7", 40000⟩

theorem requests_alone_answered_spoiler :
    ∃ d, (spoiler.receive (.bytes sessionStartWire) visitor ⟨[], 0⟩).sent = some d ∧
      (∃ c, spoiler.Hears sessionStartWire c ∧ d.destination = visitor ∧
        Datagram.Answers c sessionStartWire d.data) ∧
      (∀ (s' : Simulator) (sender' : Peer) (chance' : Chance),
        (s'.receive (.bytes d.data) sender' chance').sent = none) ∧
      Arrivals 2 [sessionStartWire] [] ∧ 2 ≤ 2 * [sessionStartWire].length := by
  obtain ⟨hanswered, hsilent, hfinite⟩ := requests_alone_answered
  have herror : (spoiler.receive (.bytes sessionStartWire) visitor ⟨[], 0⟩).error = none := by
    have hnone : (spoiler.receive (.bytes sessionStartWire) visitor ⟨[], 0⟩).error.isNone = true :=
      by decide +kernel
    exact Option.isNone_iff_eq_none.1 hnone
  have hsome : (spoiler.receive (.bytes sessionStartWire) visitor ⟨[], 0⟩).sent.isSome = true := by
    decide +kernel
  obtain ⟨d, hd⟩ := Option.isSome_iff_exists.1 hsome
  obtain ⟨-, hanswers⟩ := hanswered spoiler sessionStartWire visitor ⟨[], 0⟩ ⟨[], 0⟩ rfl herror
  have hquiet := hsilent spoiler _ _ _ d hd
  have hfirst : Arrival [sessionStartWire] [d.data] := by
    have harrival := Arrival.handled spoiler visitor ⟨[], 0⟩ [] [] sessionStartWire
    rwa [outgoing, hd] at harrival
  have hsecond : Arrival [d.data] [] := by
    have harrival := Arrival.handled spoiler visitor ⟨[], 0⟩ [] [] d.data
    rwa [outgoing, hquiet] at harrival
  have hrun : Arrivals 2 [sessionStartWire] [] := ((Arrivals.none _).more hfirst).more hsecond
  exact ⟨d, hd, hanswers d hd, hquiet, hrun, hfinite _ _ _ hrun⟩

end Simulator

end Radius
