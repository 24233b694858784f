import Radius.Proofs.Packet.Decoding
import Radius.Proofs.Packet.Encoding

/-!
# Round trips of packets

What a packet is encoded to is decoded to a packet equal to it (`Packet.decode_of_encode`). The
authenticator that goes on the wire decides how : a random one is sent as it is, an accounting
request carries a digest over zeros, and a response the digest over the authenticator it holds.

What a datagram is decoded to is encoded to the bytes its length field counts
(`Packet.encode_of_decode`), unless it has an attribute of type zero or was decoded for a request
whose authenticator has not the size of one : these are only refused by encoding.
-/

namespace Radius

/-- Whether packets of this code are requests. Any other packet answers a request. -/
def Code.isRequest : Code → Bool
  | accessRequest | accountingRequest | statusServer => true
  | _ => false

theorem Code.hasRandomAuthenticator_iff {c : Code} :
    c.hasRandomAuthenticator = true ↔ c.isRequest = true ∧ c ≠ .accountingRequest := by
  cases c <;> decide

namespace Packet

/-! ## The authenticator on the wire -/

/-- A response goes out with the digest over the authenticator it holds. -/
theorem wireAuthenticator_of_not_isRequest {c : Code} (h : c.isRequest = false) (p : Packet)
    (n : Nat) (body : Bytes) : p.wireAuthenticator c n body =
      (Authenticator.digestOf c.toValue p.identifier (.integer n) p.authenticator (.bytes body)
        p.secret).map .bytes := by
  have hrandom : ¬c.hasRandomAuthenticator = true := by
    simp [Code.hasRandomAuthenticator_iff, h]
  have haccounting : c ≠ .accountingRequest := by
    rintro hc
    simp [hc, Code.isRequest] at h
  rw [wireAuthenticator, if_neg hrandom, if_neg haccounting]

section Wire

variable {p : Packet} {f : Frame} {secret : Bytes}

theorem wireAuthenticator_of_random (h : f.code.hasRandomAuthenticator = true) :
    p.wireAuthenticator f.code f.header.length f.body = .ok p.authenticator := by
  rw [wireAuthenticator, if_pos h]

variable (hf : f.Sound) (hid : p.identifier.toInteger? = some (f.header.identifier.toNat : Int))
  (hsecret : p.secret = .bytes secret)
include hf hid hsecret

theorem wireAuthenticator_of_accounting (h : f.code = .accountingRequest) :
    p.wireAuthenticator f.code f.header.length f.body =
      .ok (.bytes (f.digest (Bytes.zeros authenticatorSize) secret)) := by
  have hrandom : ¬f.code.hasRandomAuthenticator = true :=
    fun hrandom => (Code.hasRandomAuthenticator_iff.1 hrandom).2 h
  rw [wireAuthenticator, if_neg hrandom, if_pos h, hsecret]
  dsimp only
  rw [digestOf_frame hf hid]
  rfl

theorem wireAuthenticator_of_response {previous : Bytes} (h : f.code.isRequest = false)
    (hprevious : p.authenticator = .bytes previous) :
    p.wireAuthenticator f.code f.header.length f.body =
      .ok (.bytes (f.digest previous secret)) := by
  rw [wireAuthenticator_of_not_isRequest h, hsecret, hprevious, digestOf_frame hf hid]
  rfl

end Wire

/-! ## Encoding, then decoding -/

theorem decode_toBytes {f : Frame} (hf : f.Sound) {secret : Value} {key : Bytes}
    (hkey : secret.toSecret = .ok key) {request : Option Bytes} (h : f.Authentic key request) :
    decode (.bytes f.toBytes) secret (Value.ofBytes? request) =
      .ok (ofFrame f key (.bytes (request.getD f.header.authenticator))) :=
  decode_eq_ok_iff.2 ⟨key, f, hkey, hf.ofBytes_toBytes, h, rfl⟩

theorem sentAuthenticator_toBytes {f : Frame} (hf : f.Sound) :
    sentAuthenticator f.toBytes = f.header.authenticator := by
  have hheader := hf.ofBytes? []
  rw [List.append_nil] at hheader
  exact Header.sentAuthenticator_of_ofBytes? hheader

theorem toSecret_of_bytes {p : Packet} {secret : Bytes} (h : p.secret = .bytes secret) :
    p.secret.toSecret = .ok secret := by
  rw [h]
  rfl

section Sent

variable {p : Packet} {f : Frame} (h : p.Sends f)
include h

/-- A random authenticator is sent as it is. -/
theorem Sends.authenticator_eq {a : Bytes} (hcode : f.code.hasRandomAuthenticator = true)
    (ha : p.authenticator = .bytes a) : f.header.authenticator = a := by
  obtain ⟨v, hv, hbytes⟩ := h.authenticator
  rw [wireAuthenticator_of_random hcode, ha] at hv
  obtain rfl := Except.ok.inj hv
  exact (Except.ok.inj hbytes).symm

/-- A request is sent as a frame that is authentic without another authenticator. -/
theorem Sends.authentic_none {secret : Bytes} (hsecret : p.secret = .bytes secret) :
    f.Authentic secret none := by
  intro hcode
  obtain ⟨v, hv, hbytes⟩ := h.authenticator
  rw [wireAuthenticator_of_accounting h.sound h.identifier hsecret hcode] at hv
  obtain rfl := Except.ok.inj hv
  exact Except.ok.inj hbytes

/-- A request that carries no digest is decoded under every secret. -/
theorem Sends.decode_random (hcode : f.code ≠ .accountingRequest) {secret : Value} {key : Bytes}
    (hkey : secret.toSecret = .ok key) :
    decode (.bytes f.toBytes) secret .absent =
      .ok (ofFrame f key (.bytes f.header.authenticator)) := by
  have hauthentic : f.Authentic key none := fun hc => (hcode hc).elim
  exact decode_toBytes h.sound hkey hauthentic

/-- A response is sent as a frame that is authentic for the request it answers. -/
theorem Sends.authentic_some {secret a : Bytes} (hsecret : p.secret = .bytes secret)
    (hcode : f.code.isRequest = false) (ha : p.authenticator = .bytes a) :
    f.Authentic secret (some a) := by
  obtain ⟨v, hv, hbytes⟩ := h.authenticator
  rw [wireAuthenticator_of_response h.sound h.identifier hsecret hcode ha] at hv
  obtain rfl := Except.ok.inj hv
  exact Except.ok.inj hbytes

end Sent

/-- The attributes of a packet are pairs of a type of any kind and a byte string. -/
def HoldsBytes (p : Packet) : Prop :=
  ∃ attributes : List (Value × Bytes),
    p.attributes = .list (attributes.map fun a => .pair a.1 (.bytes a.2))

theorem toItem_same {type : Value} {b : Bytes} {a : Attribute}
    (h : (Value.pair type (.bytes b)).Denotes a) :
    a.toItem.same (.pair type (.bytes b)) = true := by
  obtain ⟨t, hitem, htype⟩ := h.holds
  rw [hitem, Attribute.toItem, Value.same, Value.same_integer, Value.isNumber_of_toInteger? htype,
    Bool.true_and]
  exact Value.same_bytes_of_eq rfl

/-- The packet of a frame equals the packet that is sent as the frame, with the authenticator it is
given. -/
theorem ofFrame_same {p : Packet} {f : Frame} (h : p.Sends f) {secret : Bytes}
    (hsecret : p.secret = .bytes secret) (hp : p.HoldsBytes) {v w : Value}
    (hv : v.same w = true) : (ofFrame f secret v).same { p with authenticator := w } = true := by
  have hcode := Code.same_of_ofValue? h.code
  have hid := Value.isNumber_of_toInteger? h.identifier
  have hbytes := Value.same_bytes_of_eq hsecret
  have hsame : (ofFrame f secret v).attributes.same p.attributes = true := by
    obtain ⟨attributes, hattributes⟩ := hp
    obtain ⟨items, hitems, hdenotes⟩ := h.attributes
    rw [hattributes] at hitems ⊢
    obtain rfl := Except.ok.inj hitems
    rw [ofFrame_attributes, Value.same]
    refine Value.sameList_of_forall₂ (List.forall₂_map_left_iff.2 (List.forall₂_map_right_iff.2 ?_))
    exact (List.forall₂_map_left_iff.1 hdenotes).flip.imp fun _ _ => toItem_same
  simp only [same, ofFrame, hcode, Value.same_integer, hid, hbytes, hv, Bool.true_and]
  exact hsame

/-- A response is decoded, for the request it answers, to a packet equal to it. -/
theorem Sends.decode_response {p : Packet} {f : Frame} (h : p.Sends f) {secret a : Bytes}
    (hsecret : p.secret = .bytes secret) (ha : p.authenticator = .bytes a) (hp : p.HoldsBytes)
    (hcode : f.code.isRequest = false) :
    ∃ q, decode (.bytes f.toBytes) p.secret (.bytes a) = .ok q ∧ q.same p = true := by
  have hdecode :=
    decode_toBytes h.sound (toSecret_of_bytes hsecret) (h.authentic_some hsecret hcode ha)
  exact ⟨_, hdecode, ofFrame_same h hsecret hp (Value.same_bytes_of_eq ha)⟩

/-- What a packet is encoded to is decoded to a packet equal to it : an access or status request on
its own, a response for the request it answers. An accounting request comes back with the
authenticator that was sent. -/
theorem decode_of_encode {p : Packet} {w secret a : Bytes} (hsecret : p.secret = .bytes secret)
    (ha : p.authenticator = .bytes a) (hp : p.HoldsBytes) (hw : p.encode = .ok w) :
    (p.code? = some .accessRequest ∨ p.code? = some .statusServer →
        ∃ q, decode (.bytes w) p.secret .absent = .ok q ∧ q.same p = true) ∧
      (p.code? = some .accountingRequest → ∃ q, decode (.bytes w) p.secret .absent = .ok q ∧
        q.same { p with authenticator := .bytes (sentAuthenticator w) } = true) ∧
      ∀ c : Code, p.code? = some c → c.isRequest = false →
        ∃ q, decode (.bytes w) p.secret p.authenticator = .ok q ∧ q.same p = true := by
  obtain ⟨f, h, rfl⟩ := encode_eq_ok_iff.1 hw
  have hrequest :=
    decode_toBytes h.sound (toSecret_of_bytes hsecret) (h.authentic_none hsecret)
  refine ⟨fun hcode => ⟨_, hrequest, ?_⟩, fun _ => ⟨_, hrequest, ?_⟩, fun c hcode hresponse => ?_⟩
  · have hrandom : f.code.hasRandomAuthenticator = true := by
      rw [h.code] at hcode
      rcases hcode with hcode | hcode <;> rw [Option.some.inj hcode] <;> rfl
    refine ofFrame_same h hsecret hp (Value.same_bytes_of_eq ?_)
    exact ha.trans (congrArg Value.bytes (h.authenticator_eq hrandom ha).symm)
  · refine ofFrame_same h hsecret hp (Value.same_bytes_iff.2 ?_)
    rw [sentAuthenticator_toBytes h.sound]
    rfl
  · obtain rfl := Option.some.inj (h.code.symm.trans hcode)
    rw [ha]
    exact h.decode_response hsecret ha hp hresponse

/-- The start of an accounting session, with two attributes of one type. -/
def sessionStart : Packet where
  code := .integer 4
  identifier := .integer 7
  secret := .bytes [0x73]
  authenticator := .bytes (Bytes.zeros authenticatorSize)
  attributes := .list [.pair (.integer 40) (.bytes [0, 0, 0, 1]),
    .pair (.integer 44) (.bytes [0x61]), .pair (.integer 44) (.bytes [])]

/-- What goes on the wire for the start of the session. -/
def sessionStartWire : Bytes :=
  [4, 7, 0, 31, 0xae, 0x4c, 0x6a, 0x5b, 0x4c, 0xf8, 0x2c, 0xc2, 0x6b, 0x54, 0xa4, 0x82, 0xc5, 0x6b,
    0xbf, 0x3f, 40, 6, 0, 0, 0, 1, 44, 3, 0x61, 44, 2]

theorem encode_sessionStart : sessionStart.encode = .ok sessionStartWire := by decide +kernel

theorem decode_of_encode_sessionStart :
    sessionStart.encode = .ok sessionStartWire ∧
      ∃ q, decode (.bytes sessionStartWire) sessionStart.secret .absent = .ok q ∧
        q.same { sessionStart with authenticator := .bytes (sentAuthenticator sessionStartWire) } =
          true := by
  have hbytes : sessionStart.HoldsBytes :=
    ⟨[(.integer 40, [0, 0, 0, 1]), (.integer 44, [0x61]), (.integer 44, [])], rfl⟩
  exact ⟨encode_sessionStart, (decode_of_encode rfl rfl hbytes encode_sessionStart).2.1 rfl⟩

/-! ## Decoding, then encoding -/

/-- Some attribute of a packet is of type zero. -/
def HasTypeZero (p : Packet) : Prop :=
  ∃ items value, p.attributes = .list items ∧ .pair (.integer 0) value ∈ items

theorem toItem_denotes (a : Attribute) : a.toItem.Denotes a := ⟨_, _, rfl, rfl, rfl⟩

theorem hasTypeZero_ofFrame {f : Frame} {secret : Bytes} {authenticator : Value} :
    (ofFrame f secret authenticator).HasTypeZero ↔ ∃ a ∈ f.attributes, a.type = 0 := by
  simp only [HasTypeZero, ofFrame_attributes, Value.list.injEq]
  constructor
  · rintro ⟨_, value, rfl, hitem⟩
    obtain ⟨a, ha, hitem⟩ := List.mem_map.1 hitem
    obtain ⟨htype, -⟩ := Value.pair.inj hitem
    exact ⟨a, ha, UInt8.toNat_inj.1 (Int.ofNat_inj.1 (Value.integer.inj htype))⟩
  · rintro ⟨a, ha, htype⟩
    refine ⟨_, .bytes a.value, rfl, List.mem_map.2 ⟨a, ha, ?_⟩⟩
    rw [Attribute.toItem, htype]
    rfl

/-- An attribute of type zero is refused, and those before it are not. -/
theorem encodeItems_of_zero {attributes : List Attribute}
    (hsizes : ∀ a ∈ attributes, a.value.length ≤ Attribute.maxValueSize)
    (hzero : ∃ a ∈ attributes, a.type = 0) :
    encodeItems (attributes.map Attribute.toItem) =
      .error (.encode (.typeRange (.integer 0))) := by
  induction attributes with
  | nil => simp at hzero
  | cons a rest ih =>
    obtain ⟨hsize, hsizes⟩ := List.forall_mem_cons.1 hsizes
    rw [List.map_cons, encodeItems]
    by_cases ha : a.type = 0
    · have hitem : encodeAttribute a.toItem = .error (.encode (.typeRange (.integer 0))) := by
        rw [Attribute.toItem, ha]
        rfl
      rw [hitem, error_bind]
    · have hitem : encodeAttribute a.toItem = .ok a.toBytes :=
        encodeAttribute_eq_ok_iff.2 ⟨a, toItem_denotes a, ha, hsize, rfl⟩
      have hrest : ∃ b ∈ rest, b.type = 0 := by simpa [ha] using hzero
      rw [hitem, ok_bind, ih hsizes hrest, error_bind]

/-- The authenticator that the packet of a sound frame holds has its size, if that of the request
has. -/
theorem length_getD {f : Frame} (hf : f.Sound) {request : Option Bytes}
    (hsize : ∀ a ∈ request, a.length = authenticatorSize) :
    (request.getD f.header.authenticator).length = authenticatorSize := by
  cases request with
  | none => exact hf.authenticator
  | some a => exact hsize a rfl

/-- The packet of a sound frame passes the checks before its attributes, if its authenticator has
the size of one. -/
theorem ofFrame_checked {f : Frame} {secret a : Bytes} (ha : a.length = authenticatorSize) :
    (ofFrame f secret (.bytes a)).Checked f.code (f.attributes.map Attribute.toItem) where
  code := Code.ofValue?_toValue f.code
  identifier := Value.within_of_byte rfl
  size := congrArg Except.ok ha
  items := by rw [ofFrame_attributes]; rfl

theorem encode_of_size_ne {p : Packet} {code : Code} {n : Nat} (hcode : p.code? = some code)
    (hid : p.identifier.within 0 255 = .ok true) (hn : p.authenticator.length = .ok n)
    (hne : n ≠ authenticatorSize) : p.encode = .error (.encode .authenticatorSize) := by
  rw [encode, hcode]
  simp [hid, hn, hne]

/-- The packet of an authentic frame whose attributes have types from one on is sent as the frame
again, if it was read in a way that fits its code. -/
theorem ofFrame_sends {f : Frame} (hf : f.Sound) {secret : Bytes} {request : Option Bytes}
    (hauthentic : f.Authentic secret request) (hfit : f.code.isRequest = request.isNone)
    (hsize : ∀ a ∈ request, a.length = authenticatorSize)
    (htypes : ∀ a ∈ f.attributes, a.type ≠ 0) :
    (ofFrame f secret (.bytes (request.getD f.header.authenticator))).Sends f := by
  have hchecked := @ofFrame_checked f secret _ (length_getD hf hsize)
  refine ⟨hf, hchecked.code, rfl, hchecked.size, ⟨_, hchecked.items, ?_⟩, htypes, ?_⟩
  · exact List.forall₂_map_left_iff.2 (List.forall₂_same.2 fun a _ => toItem_denotes a)
  -- What goes on the wire is either kept in the packet or the digest that was compared.
  · cases request with
    | none =>
      by_cases hcode : f.code = .accountingRequest
      · refine ⟨_, wireAuthenticator_of_accounting hf rfl rfl hcode, ?_⟩
        exact congrArg Except.ok (hauthentic hcode)
      · have hrandom := Code.hasRandomAuthenticator_iff.2 ⟨hfit, hcode⟩
        exact ⟨_, wireAuthenticator_of_random hrandom, rfl⟩
    | some a =>
      refine ⟨_, wireAuthenticator_of_response hf rfl rfl hfit rfl, ?_⟩
      exact congrArg Except.ok hauthentic

/-- A packet that is decoded in a way that fits its code is encoded to the bytes that the length
field of the datagram counts. Only the authenticator of a request that has not the size of one and
an attribute of type zero are accepted by decoding but refused by encoding. -/
theorem encode_of_decode {data : Bytes} {secret : Value} {request : Option Bytes} {q : Packet}
    {c : Code} (h : decode (.bytes data) secret (Value.ofBytes? request) = .ok q)
    (hc : q.code? = some c) (hfit : c.isRequest = request.isNone) :
    (¬q.HasTypeZero → (∀ a ∈ request, a.length = authenticatorSize) →
        q.encode = .ok (data.take (Datagram.lengthField data))) ∧
      ((∃ a ∈ request, a.length ≠ authenticatorSize) →
        q.encode = .error (.encode .authenticatorSize)) ∧
      (q.HasTypeZero → (∀ a ∈ request, a.length = authenticatorSize) →
        q.encode = .error (.encode (.typeRange (.integer 0)))) := by
  obtain ⟨key, f, -, hframe, hauthentic, rfl⟩ := decode_eq_ok_iff.1 h
  have hf := Frame.sound_of_ofBytes hframe
  obtain rfl : f.code = c := Option.some.inj ((Code.ofValue?_toValue f.code).symm.trans hc)
  rw [hasTypeZero_ofFrame]
  refine ⟨fun hzero hsize => ?_, fun hsize => ?_, fun hzero hsize => ?_⟩
  · have htypes : ∀ a ∈ f.attributes, a.type ≠ 0 := fun a ha htype => hzero ⟨a, ha, htype⟩
    rw [Frame.take_of_ofBytes hframe]
    exact encode_eq_ok_iff.2 ⟨f, ofFrame_sends hf hauthentic hfit hsize htypes, rfl⟩
  · obtain ⟨a, rfl, ha⟩ := hsize
    exact encode_of_size_ne hc (Value.within_of_byte rfl) rfl ha
  · rw [(ofFrame_checked (length_getD hf hsize)).encode,
      encodeItems_of_zero (fun _ => hf.values) hzero, error_bind]

theorem encode_of_decode_sessionStart :
    ∃ q, decode (.bytes (sessionStartWire ++ [0xff])) sessionStart.secret .absent = .ok q ∧
      q.encode = .ok sessionStartWire := by
  obtain ⟨f, hf, hw⟩ := encode_eq_ok_iff.1 encode_sessionStart
  have hframe : Frame.ofBytes (sessionStartWire ++ [0xff]) = .ok f :=
    Frame.ofBytes_eq_ok_iff.2 ⟨hf.sound, [0xff], by rw [hw]⟩
  have hkey : sessionStart.secret.toSecret = .ok [0x73] := rfl
  have hauthentic : f.Authentic [0x73] none := hf.authentic_none rfl
  have hdecode := decode_eq_ok_iff.2 ⟨[0x73], f, hkey, hframe, hauthentic, rfl⟩
  have hcode : f.code = .accountingRequest := Option.some.inj (hf.code.symm.trans rfl)
  have hfit : f.code.isRequest = (none : Option Bytes).isNone := by
    rw [hcode]
    rfl
  have hencode := (encode_of_decode hdecode (Code.ofValue?_toValue f.code) hfit).1
  rw [hasTypeZero_ofFrame] at hencode
  have htake : (sessionStartWire ++ [0xff]).take
      (Datagram.lengthField (sessionStartWire ++ [0xff])) = sessionStartWire := by decide
  rw [htake] at hencode
  exact ⟨_, hdecode, hencode (fun ⟨a, ha, htype⟩ => hf.types a ha htype) (by simp)⟩

end Packet

end Radius
