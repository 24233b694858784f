import Radius.Proofs.Packet.Acceptance
import Radius.Proofs.Simulator.Credentials
import Radius.Proofs.Simulator.Fitting
import Radius.Proofs.Simulator.Handling

/-!
# Which datagrams a simulator cannot handle

The reply to a request is encoded without regard to its size, and the name of an accepted user can
be too long to be repeated in it, or get too long when what is no text in it is replaced. Handling
such a datagram fails, and nothing is sent. Every other request that is not dropped gets its reply,
and every other datagram is ignored (`Simulator.receive_survives`).
-/

namespace Radius

namespace Simulator

open Packet

/-! ## Answers to datagrams -/

/-- A packet that is no request gets no reply. -/
theorem reply_eq_none (s : Simulator) {request : Packet} (entropy : Entropy)
    (h : ∀ c, request.code? = some c → c.isRequest = false) :
    s.reply request entropy = .ok none := by
  rw [reply]
  cases hcode : request.code? with
  | none => rfl
  | some c =>
    have hother := h c hcode
    cases c <;> first | rfl | simp [Code.isRequest] at hother

section Datagram

variable {s : Simulator} {data : Bytes}

/-- Whatever is wrong with a datagram is an error of decoding, if the simulator has a secret. -/
theorem decode_error {key : Bytes} (hkey : s.secret.toSecret = .ok key) {e : PacketError}
    (h : decode (.bytes data) s.secret .absent = .error e) : ∃ why, e = .decode why := by
  have hbytes : (Value.bytes key).toSecret = .ok key := rfl
  rw [decode_bytes hkey, ← decode_bytes hbytes] at h
  rcases Check.decode_verdict data key none with ⟨-, p, hp⟩ | ⟨_, why, herror, -⟩
  · cases h.symm.trans hp
  · exact ⟨why, Except.error.inj (h.symm.trans herror)⟩

/-- A datagram that is no request gets no answer. -/
theorem replyTo_of_no_request {key : Bytes} (hkey : s.secret.toSecret = .ok key)
    (h : ∀ request c, decode (.bytes data) s.secret .absent = .ok request →
      request.code? = some c → c.isRequest = false) : s.replyTo (.bytes data) = .ok none := by
  rw [replyTo]
  cases hdecode : decode (.bytes data) s.secret .absent with
  | error e =>
    obtain ⟨why, rfl⟩ := decode_error hkey hdecode
    rfl
  | ok request =>
    dsimp only
    rw [s.reply_eq_none noEntropy fun c => h request c hdecode]
    rfl

theorem replyTo_of_too_large {request : Packet} {name : String}
    (hdecode : decode (.bytes data) s.secret .absent = .ok request)
    (hname : s.Welcomes request name) (hsize : Attribute.maxValueSize < (greeting name).length) :
    s.replyTo (.bytes data) = .error (.encode
      (.valueTooLarge (.integer Dictionary.replyMessage) (greeting name).length)) := by
  obtain ⟨key, f, hf, rfl⟩ := frame_of_decode hdecode
  obtain ⟨r, hr, hencode⟩ := reply_too_large (Frame.sound_of_ofBytes hf) hname hsize
  rw [replyTo, hdecode]
  dsimp only
  rw [hr, ok_bind]
  dsimp only
  rw [hencode, error_bind]

theorem replyTo_of_request {request : Packet} {c : Code}
    (hdecode : decode (.bytes data) s.secret .absent = .ok request)
    (hcode : request.code? = some c) (hrequest : c.isRequest = true)
    (hfits : ∀ name, s.Welcomes request name →
      (greeting name).length ≤ Attribute.maxValueSize) :
    ∃ r wire, s.reply request noEntropy = .ok (some r) ∧ r.encode = .ok wire ∧
      s.replyTo (.bytes data) = .ok (some wire) := by
  obtain ⟨key, f, hf, rfl⟩ := frame_of_decode hdecode
  obtain ⟨r, wire, hr, hwire⟩ := reply_encodes (Frame.sound_of_ofBytes hf) hcode hrequest hfits
  refine ⟨r, wire, hr, hwire, ?_⟩
  rw [replyTo, hdecode]
  dsimp only
  rw [hr, ok_bind]
  dsimp only
  rw [hwire, ok_bind, pure_eq_ok]

/-- Answering a datagram fails exactly for a greeting that is too large. -/
theorem replyTo_eq_error_iff {key : Bytes} (hkey : s.secret.toSecret = .ok key)
    {why : PacketError} :
    s.replyTo (.bytes data) = .error why ↔
      ∃ request name, decode (.bytes data) s.secret .absent = .ok request ∧
        s.Welcomes request name ∧ Attribute.maxValueSize < (greeting name).length ∧
        why = .encode
          (.valueTooLarge (.integer Dictionary.replyMessage) (greeting name).length) := by
  constructor
  · intro h
    by_contra hnot
    have hrequest : ∀ request c, decode (.bytes data) s.secret .absent = .ok request →
        request.code? = some c → c.isRequest = false := by
      intro request c hdecode hcode
      by_contra hrequest
      have hfits : ∀ name, s.Welcomes request name →
          (greeting name).length ≤ Attribute.maxValueSize := by
        intro name hname
        by_contra hlarge
        have htoo := replyTo_of_too_large hdecode hname (Nat.not_le.1 hlarge)
        exact hnot ⟨request, name, hdecode, hname, Nat.not_le.1 hlarge,
          Except.error.inj (h.symm.trans htoo)⟩
      obtain ⟨_, _, -, -, hreply⟩ :=
        replyTo_of_request hdecode hcode (Bool.not_eq_false _ ▸ hrequest) hfits
      cases h.symm.trans hreply
    cases h.symm.trans (replyTo_of_no_request hkey hrequest)
  · rintro ⟨request, name, hdecode, hname, hsize, rfl⟩
    exact replyTo_of_too_large hdecode hname hsize

end Datagram

/-! ## Handling -/

/-- What becomes of a datagram : whether it is dropped can be drawn. Handling it fails exactly for a
greeting that is too large, and nothing is sent then. What is dropped or is no request is ignored,
and every other request is answered. -/
structure Survives (s : Simulator) (data : Bytes) (sender : Peer) (chance : Chance)
    (handled : Handled) : Prop where
  drawn : ∃ dropped rest, s.faults.dropped chance = .ok (dropped, rest)
  fails : ∀ why, handled.error = some why ↔ ∃ kept request name,
    s.faults.dropped chance = .ok (false, kept) ∧
      decode (.bytes data) s.secret .absent = .ok request ∧ s.Welcomes request name ∧
      Attribute.maxValueSize < (greeting name).length ∧
      why = .encode (.valueTooLarge (.integer Dictionary.replyMessage) (greeting name).length)
  silent : ∀ why, handled.error = some why → handled.sent = none
  dropped : ∀ rest, s.faults.dropped chance = .ok (true, rest) →
    handled.sent = none ∧ handled.error = none
  ignored : (∀ request c, decode (.bytes data) s.secret .absent = .ok request →
    request.code? = some c → c.isRequest = false) → handled.sent = none ∧ handled.error = none
  answered : ∀ kept request c, s.faults.dropped chance = .ok (false, kept) →
    decode (.bytes data) s.secret .absent = .ok request → request.code? = some c →
    c.isRequest = true →
    (∀ name, s.Welcomes request name → (greeting name).length ≤ Attribute.maxValueSize) →
      ∃ r wire corrupted rest delay, s.reply request noEntropy = .ok (some r) ∧
        r.encode = .ok wire ∧ s.faults.corrupted kept = .ok (corrupted, rest) ∧
        s.faults.delaySeconds = .ok delay ∧
        handled.sent = some (dispatch (transmitted wire corrupted) delay sender) ∧
        handled.error = none

/-- A simulator with a secret and faults that can be drawn and timed survives every datagram but
those whose greeting is too large. -/
theorem receive_survives {s : Simulator} {key : Bytes} (hkey : s.secret.toSecret = .ok key)
    (hf : s.faults.Operable) (data : Bytes) (sender : Peer) (chance : Chance) :
    s.Survives data sender chance (s.receive (.bytes data) sender chance) := by
  have hsettles := settles_receive hf (.bytes data) sender chance
  refine ⟨Faults.occurs_of_isNumeric hf.dropRate chance, fun why => ?_,
    fun _ => hsettles.sent_of_error, fun _ => hsettles.of_dropped,
    fun h => hsettles.of_ignored (replyTo_of_no_request hkey h), ?_⟩
  · rw [hsettles.error_iff]
    constructor
    · rintro ⟨kept, hkept, hreply⟩
      obtain ⟨request, name, hlarge⟩ := (replyTo_eq_error_iff hkey).1 hreply
      exact ⟨kept, request, name, hkept, hlarge⟩
    · rintro ⟨kept, request, name, hkept, hlarge⟩
      exact ⟨kept, hkept, (replyTo_eq_error_iff hkey).2 ⟨request, name, hlarge⟩⟩
  · intro kept request c hkept hdecode hcode hrequest hfits
    obtain ⟨r, wire, hr, hwire, hreply⟩ := replyTo_of_request hdecode hcode hrequest hfits
    obtain ⟨corrupted, rest, delay, hanswered⟩ := hsettles.of_answered hkept hreply
    exact ⟨r, wire, corrupted, rest, delay, hr, hwire, hanswered⟩

/-- A name that fits an attribute by itself. -/
def longName : String := String.ofList (List.replicate 246 'a')

/-- A simulator that has a user of this name. -/
def host : Simulator :=
  start standardSecret [(longName, .bytes (Text.Utf8.encode "wonderland".toList))] {}

/-- The name and the hidden password of this user. -/
def longCredentials : List Attribute :=
  [⟨1, List.replicate 246 0x61⟩,
    ⟨2, [0xca, 0x78, 0, 0xf9, 0xc3, 0x27, 0x3e, 0x34, 0xc5, 0x12, 0xd4, 0xea, 0x6a, 0xbd, 0xef,
      0xd7]⟩]

/-- A request for access of this user. -/
def longFrame : Frame where
  code := .accessRequest
  header := ⟨1, 9, 286, Bytes.zeros authenticatorSize⟩
  body := Attribute.encode longCredentials
  attributes := longCredentials

theorem longName_toList : longName.toList = List.replicate 246 'a' := String.toList_ofList

theorem greeting_longName : (greeting longName).length = 254 := by
  rw [greeting, String.toList_append, longName_toList]
  decide +kernel

theorem greeting_longName_large : Attribute.maxValueSize < (greeting longName).length := by
  rw [greeting_longName]
  decide

theorem longFrame_sound : longFrame.Sound where
  code := rfl
  length := by decide +kernel
  fits := by decide
  authenticator := rfl
  body := Attribute.spells_iff.2 ⟨by decide +kernel, rfl⟩

theorem host_accepts {request : Packet}
    (hsecret : request.secret = .bytes (Text.Utf8.encode "testing123".toList))
    (ha : request.authenticator = .bytes (Bytes.zeros authenticatorSize))
    (hitems : request.attributes = .list (longFrame.attributes.map Attribute.toItem)) :
    host.acceptedUser request = .ok (some longName) := by
  have hname : Attribute.first? Dictionary.userName longFrame.attributes =
      some (Text.Utf8.encode longName.toList) := by
    rw [longName_toList]
    decide +kernel
  have hhidden : Attribute.first? Dictionary.userPassword longFrame.attributes =
      some (Password.hide (Text.Utf8.encode "testing123".toList) (Bytes.zeros authenticatorSize)
        (Password.padded (Text.Utf8.encode "wonderland".toList))) := by
    decide +kernel
  obtain ⟨huser, hpassword⟩ := read_credentials hsecret ha hitems hname hhidden
  have hlookup : host.users.lookup longName =
      some (.bytes (Text.Utf8.encode "wonderland".toList)) := List.lookup_cons_self
  have hplain : Bytes.trimZeros (Text.Utf8.encode "wonderland".toList) =
      Text.Utf8.encode "wonderland".toList := by decide +kernel
  exact acceptedUser_of_knows huser hpassword ⟨_, hlookup, congrArg some hplain.symm⟩

/-- The request is decoded and accepted. -/
theorem host_welcomes : ∃ request,
    decode (.bytes longFrame.toBytes) host.secret .absent = .ok request ∧
      host.Welcomes request longName := by
  have hkey : host.secret.toSecret = .ok (Text.Utf8.encode "testing123".toList) := rfl
  have hcode : longFrame.code ≠ .accountingRequest := by decide
  have hauthentic : longFrame.Authentic (Text.Utf8.encode "testing123".toList) none :=
    fun h => (hcode h).elim
  have hdecode := decode_toBytes longFrame_sound hkey hauthentic
  have haccepts := host_accepts rfl rfl (ofFrame_attributes longFrame _ _)
  exact ⟨_, hdecode, Code.ofValue?_toValue _, haccepts⟩

theorem host_operable : host.faults.Operable := ⟨rfl, rfl, rfl⟩

theorem host_keeps (chance : Chance) : host.faults.dropped chance = .ok (false, chance) :=
  Faults.occurs_of_isNumber_zero (by decide +kernel) chance

theorem receive_survives_host :
    host.secret.toSecret = .ok (Text.Utf8.encode "testing123".toList) ∧ host.faults.Operable ∧
      ∀ sender chance,
        (host.receive (.bytes longFrame.toBytes) sender chance).error =
            some (.encode (.valueTooLarge (.integer Dictionary.replyMessage) 254)) ∧
          (host.receive (.bytes longFrame.toBytes) sender chance).sent = none := by
  obtain ⟨request, hdecode, hname⟩ := host_welcomes
  refine ⟨rfl, host_operable, fun sender chance => ?_⟩
  have hsurvives :=
    @receive_survives host _ rfl host_operable longFrame.toBytes sender chance
  have herror := (hsurvives.fails _).2
    ⟨chance, request, longName, host_keeps chance, hdecode, hname, greeting_longName_large,
      rfl⟩
  rw [greeting_longName] at herror
  exact ⟨herror, hsurvives.silent _ herror⟩

/-- Not every datagram is handled : the name of a user that is accepted may be too long to be
welcomed. -/
theorem exists_receive_error :
    ¬∀ (s : Simulator) (key : Bytes), s.secret.toSecret = .ok key → s.faults.Operable →
      ∀ data sender chance, (s.receive (.bytes data) sender chance).error = none := by
  intro hall
  obtain ⟨request, hdecode, hname⟩ := host_welcomes
  have hnone := hall host _ rfl host_operable longFrame.toBytes ⟨"192.0.2.7", 40000⟩ ⟨[], 0⟩
  cases hnone.symm.trans ((settles_receive host_operable _ _ _).error_iff.2
    ⟨_, host_keeps _, replyTo_of_too_large hdecode hname greeting_longName_large⟩)

end Simulator

end Radius
