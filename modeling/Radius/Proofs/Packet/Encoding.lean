import Radius.Proofs.Packet.Frame
import Radius.Proofs.Value

/-!
# Packets encoded

A packet is encoded exactly if it `Packet.Sends` a sound frame, and then to the bytes of that frame
(`Packet.encode_eq_ok_iff`). The fields of the packet may be values of any kind : the code is one
that equals the frame's, the identifier an integer, and every item of the attribute list a pair of
an integer from one on and a byte string (`Value.Denotes`).

Encoding goes through three stages : checks of the fields (`Packet.Checked`), the attributes
(`Packet.encodeItems_eq_ok_iff`), and the header around them (`Packet.assemble_eq_ok_iff`).
-/

namespace Radius

/-- An item of an attribute list stands for an attribute : it is a pair of its type, as an integer,
and its value, as a byte string. -/
def Value.Denotes (item : Value) (a : Attribute) : Prop :=
  ∃ type value, item.unpair = .ok (type, value) ∧
    type.toInteger? = some (a.type.toNat : Int) ∧ value.toBytes? = some a.value

/-- An item of an attribute list holds an attribute : it is a pair of the type, as an integer of any
kind, and the value. -/
def Value.Holds (item : Value) (a : Attribute) : Prop :=
  ∃ type, item = .pair type (.bytes a.value) ∧ type.toInteger? = some (a.type.toNat : Int)

/-- A pair stands for an attribute if its first item is the type and its second item the value. -/
theorem Value.denotes_pair_iff {type value : Value} {a : Attribute} :
    (pair type value).Denotes a ↔
      type.toInteger? = some (a.type.toNat : Int) ∧ value.toBytes? = some a.value := by
  constructor
  · rintro ⟨t, v, hitem, htype, hvalue⟩
    obtain ⟨rfl, rfl⟩ := Prod.mk.inj (Except.ok.inj hitem)
    exact ⟨htype, hvalue⟩
  · rintro ⟨htype, hvalue⟩
    exact ⟨type, value, rfl, htype, hvalue⟩

theorem Value.Denotes.holds {type : Value} {b : Bytes} {a : Attribute}
    (h : (Value.pair type (.bytes b)).Denotes a) : (Value.pair type (.bytes b)).Holds a := by
  obtain ⟨htype, hvalue⟩ := denotes_pair_iff.1 h
  obtain rfl := Option.some.inj hvalue
  exact ⟨type, rfl, htype⟩

theorem Attribute.Spells.cons_toBytes {a : Attribute} {attributes : List Attribute} {rest : Bytes}
    (ha : a.value.length ≤ maxValueSize) (h : Spells attributes rest) :
    Spells (a :: attributes) (a.toBytes ++ rest) := by
  obtain ⟨hfit, rfl⟩ := spells_iff.1 h
  refine spells_iff.2 ⟨?_, by simp [encode]⟩
  intro b hb
  rcases List.mem_cons.1 hb with rfl | hb
  · exact ha
  · exact hfit b hb

namespace Packet

/-! ## Attributes -/

/-- An item is written if it stands for an attribute of a type from one on whose value fits. -/
theorem encodeAttribute_eq_ok_iff {item : Value} {out : Bytes} :
    encodeAttribute item = .ok out ↔
      ∃ a : Attribute, item.Denotes a ∧ a.type ≠ 0 ∧
        a.value.length ≤ Attribute.maxValueSize ∧ out = a.toBytes := by
  rw [encodeAttribute, lift_operand, bind_eq_ok_iff]
  constructor
  · rintro ⟨⟨type, value⟩, hitem, h⟩
    rw [mapError_eq_ok_iff] at hitem
    dsimp only at h
    cases hvalue : value.toBytes? with
    | none => simp [hvalue] at h
    | some bytes =>
      cases htype : type.toInteger? with
      | none => simp [hvalue, htype] at h
      | some t =>
        by_cases hrange : t < 1 ∨ 255 < t
        · simp [hvalue, htype, hrange] at h
        · by_cases hsize : Attribute.maxValueSize < bytes.length
          · simp [hvalue, htype, hrange, hsize] at h
          · simp [hvalue, htype, hrange, hsize] at h
            have hin : type.IsBetween 1 255 := ⟨t, htype, by omega, by omega⟩
            obtain ⟨b, hb, hlow, -⟩ := hin.exists_byte (by decide) (by decide)
            obtain rfl := Option.some.inj (htype.symm.trans hb)
            rw [Int.toNat_natCast, UInt8.ofNat_toNat] at h
            refine ⟨⟨b, bytes⟩, ⟨type, value, hitem, htype, hvalue⟩, ?_, Nat.not_lt.1 hsize,
              h.symm⟩
            rintro rfl
            simp at hlow
  · rintro ⟨a, ⟨type, value, hitem, htype, hvalue⟩, hzero, hsize, rfl⟩
    have hlt := a.type.toNat_lt
    have hpos : a.type.toNat ≠ 0 := fun h => hzero (UInt8.toNat_inj.1 h)
    have hrange : ¬(decide ((a.type.toNat : Int) < 1) || decide (255 < (a.type.toNat : Int))) := by
      simp only [Bool.or_eq_true, decide_eq_true_eq]
      omega
    refine ⟨(type, value), by rw [hitem, mapError_ok], ?_⟩
    simp only [hvalue, htype, if_neg hrange, if_neg (Nat.not_lt.2 hsize), pure_eq_ok]
    rw [Int.toNat_natCast, UInt8.ofNat_toNat]

/-- Items are written if they stand for attributes of types from one on, which spell what is
written. -/
theorem encodeItems_eq_ok_iff {items : List Value} {body : Bytes} :
    encodeItems items = .ok body ↔
      ∃ attributes, List.Forall₂ Value.Denotes items attributes ∧
        (∀ a ∈ attributes, a.type ≠ 0) ∧ Attribute.Spells attributes body := by
  induction items generalizing body with
  | nil =>
    rw [encodeItems]
    constructor
    · intro h
      obtain rfl := Except.ok.inj h
      exact ⟨[], .nil, by simp, .nil⟩
    · rintro ⟨attributes, hitems, -, hspells⟩
      cases hitems
      cases hspells
      rfl
  | cons item rest ih =>
    simp only [encodeItems, bind_eq_ok_iff, encodeAttribute_eq_ok_iff, ih]
    constructor
    · rintro ⟨_, ⟨a, hitem, hzero, hsize, rfl⟩, tail, ⟨attributes, hitems, htypes, hspells⟩, h⟩
      obtain rfl := Except.ok.inj h
      exact ⟨a :: attributes, .cons hitem hitems, List.forall_mem_cons.2 ⟨hzero, htypes⟩,
        hspells.cons_toBytes hsize⟩
    · rintro ⟨attributes, hitems, htypes, hspells⟩
      cases hitems with
      | @cons _ a _ attributes hitem hitems =>
        obtain ⟨hzero, htypes⟩ := List.forall_mem_cons.1 htypes
        obtain ⟨hsizes, rfl⟩ := Attribute.spells_iff.1 hspells
        obtain ⟨hsize, hsizes⟩ := List.forall_mem_cons.1 hsizes
        exact ⟨_, ⟨a, hitem, hzero, hsize, rfl⟩, _,
          ⟨attributes, hitems, htypes, Attribute.spells_iff.2 ⟨hsizes, rfl⟩⟩,
          by simp [Attribute.encode]⟩

/-! ## Packets -/

/-- The wire form of a packet of a code whose attributes are written as `body`. -/
def assemble (p : Packet) (code : Code) (body : Bytes) : Except PacketError Bytes := do
  let length := Header.size + body.length
  if maxPacketSize < length then throw (.encode (.packetTooLarge length))
  let authenticator ← p.wireAuthenticator code length body
  let header ← Header.ofValues code.toValue p.identifier (.integer length) authenticator
  return header.toBytes ++ body

/-- The fields of a packet pass the checks made before its attributes are written. -/
structure Checked (p : Packet) (code : Code) (items : List Value) : Prop where
  code : p.code? = some code
  identifier : p.identifier.within 0 255 = .ok true
  size : p.authenticator.length = .ok authenticatorSize
  items : p.attributes.items = .ok items

theorem Checked.encode {p : Packet} {code : Code} {items : List Value} (h : p.Checked code items) :
    p.encode = encodeItems items >>= p.assemble code := by
  rw [Packet.encode, h.code]
  simp [h.identifier, h.size, h.items]
  rfl

theorem checked_of_encode {p : Packet} {w : Bytes} (h : p.encode = .ok w) :
    ∃ code items, p.Checked code items := by
  rw [Packet.encode] at h
  cases hcode : p.code? with
  | none => simp [hcode] at h
  | some code =>
    cases hid : p.identifier.within 0 255 with
    | error why => simp [hcode, hid] at h
    | ok b =>
      cases b with
      | false => simp [hcode, hid] at h
      | true =>
        cases hsize : p.authenticator.length with
        | error why => simp [hcode, hid, hsize] at h
        | ok n =>
          by_cases hn : n = authenticatorSize
          · cases hitems : p.attributes.items with
            | error why => simp [hcode, hid, hsize, hn, hitems] at h
            | ok items => exact ⟨code, items, hcode, hid, hn ▸ hsize, hitems⟩
          · simp [hcode, hid, hsize, hn] at h

theorem assemble_eq_ok_iff {p : Packet} {code : Code} {body w : Bytes} :
    p.assemble code body = .ok w ↔
      Header.size + body.length ≤ maxPacketSize ∧
        ∃ v header, p.wireAuthenticator code (Header.size + body.length) body = .ok v ∧
          Header.ofValues code.toValue p.identifier
            (.integer (Header.size + body.length : Nat)) v = .ok header ∧
          w = header.toBytes ++ body := by
  by_cases hfits : maxPacketSize < Header.size + body.length
  · simp [assemble, hfits, Nat.not_le.2 hfits]
  · simp only [assemble, if_neg hfits, Nat.not_lt.1 hfits, true_and, bind_eq_ok_iff, lift_field,
      mapError_eq_ok_iff, pure_eq_ok, Except.ok.injEq]
    constructor
    · rintro ⟨v, hv, header, hheader, rfl⟩
      exact ⟨v, header, hv, hheader, rfl⟩
    · rintro ⟨v, header, hv, hheader, rfl⟩
      exact ⟨v, hv, header, hheader, rfl⟩

/-- A digest of fields of any kind has the size of an authenticator. -/
theorem length_of_digestOf {code identifier length previous body secret : Value} {d : Bytes}
    (h : Authenticator.digestOf code identifier length previous body secret = .ok d) :
    d.length = authenticatorSize := by
  simp only [Authenticator.digestOf, bind_eq_ok_iff, pure_eq_ok, Except.ok.injEq] at h
  obtain ⟨_, -, _, -, _, -, message, -, rfl⟩ := h
  exact MD5.length_digest message

/-- The authenticator that goes on the wire has the size of one. -/
theorem length_of_wireAuthenticator {p : Packet} {code : Code} {n : Nat} {body bytes : Bytes}
    {v : Value} (hsize : p.authenticator.length = .ok authenticatorSize)
    (hv : p.wireAuthenticator code n body = .ok v) (hbytes : v.toBytesField = .ok bytes) :
    bytes.length = authenticatorSize := by
  unfold wireAuthenticator at hv
  split at hv
  · obtain rfl := Except.ok.inj hv
    cases h : p.authenticator <;> simp [h, Value.toBytesField, Value.length] at hbytes hsize
    · rw [← hbytes, hsize]
    · rw [← hbytes, hsize]
  · obtain ⟨d, hd, rfl⟩ := map_eq_ok_iff.1 hv
    obtain rfl := Except.ok.inj hbytes
    exact length_of_digestOf hd

/-- A packet is sent as a frame : the frame is sound, its code, identifier and attributes are those
of the packet, no attribute has type zero, and its authenticator is the one that goes on the
wire. -/
structure Sends (p : Packet) (f : Frame) : Prop where
  sound : f.Sound
  code : p.code? = some f.code
  identifier : p.identifier.toInteger? = some (f.header.identifier.toNat : Int)
  size : p.authenticator.length = .ok authenticatorSize
  attributes : ∃ items, p.attributes.items = .ok items ∧
    List.Forall₂ Value.Denotes items f.attributes
  types : ∀ a ∈ f.attributes, a.type ≠ 0
  authenticator : ∃ v, p.wireAuthenticator f.code f.header.length f.body = .ok v ∧
    v.toBytesField = .ok f.header.authenticator

theorem Sends.checked {p : Packet} {f : Frame} {items : List Value} (h : p.Sends f)
    (hitems : p.attributes.items = .ok items) : p.Checked f.code items where
  code := h.code
  identifier := Value.within_of_byte h.identifier
  size := h.size
  items := hitems

/-- A packet is encoded exactly if it is sent as a frame, and then as the bytes of the frame. -/
theorem encode_eq_ok_iff {p : Packet} {w : Bytes} :
    p.encode = .ok w ↔ ∃ f, p.Sends f ∧ w = f.toBytes := by
  constructor
  · intro h
    obtain ⟨code, items, hchecked⟩ := checked_of_encode h
    rw [hchecked.encode, bind_eq_ok_iff] at h
    obtain ⟨body, hbody, hw⟩ := h
    obtain ⟨attributes, hitems, htypes, hspells⟩ := encodeItems_eq_ok_iff.1 hbody
    obtain ⟨hfits, v, header, hv, hheader, rfl⟩ := assemble_eq_ok_iff.1 hw
    obtain ⟨hcode, hid, hlength, -, hauth⟩ := Header.ofValues_eq_ok_iff.1 hheader
    have hauthsize := length_of_wireAuthenticator hchecked.size hv hauth
    rw [← hlength] at hfits hv
    exact ⟨⟨code, header, body, attributes⟩,
      ⟨⟨hcode, hlength, hfits, hauthsize, hspells⟩, hchecked.code, hid, hchecked.size,
        ⟨items, hchecked.items, hitems⟩, htypes, v, hv, hauth⟩, rfl⟩
  · rintro ⟨f, h, rfl⟩
    obtain ⟨items, hitems, hdenotes⟩ := h.attributes
    obtain ⟨v, hv, hauth⟩ := h.authenticator
    have hlength := h.sound.length
    have hfits : Header.size + f.body.length ≤ maxPacketSize := by
      rw [← hlength]
      exact h.sound.fits
    have hheader : Header.ofValues f.code.toValue p.identifier
        (.integer (Header.size + f.body.length : Nat)) v = .ok f.header := by
      rw [← hlength]
      exact Header.ofValues_eq_ok_iff.2
        ⟨h.sound.code, h.identifier, rfl, h.sound.length_lt, hauth⟩
    have hbody := encodeItems_eq_ok_iff.2 ⟨f.attributes, hdenotes, h.types, h.sound.body⟩
    rw [h.checked hitems |>.encode, hbody, ok_bind]
    rw [hlength] at hv
    exact assemble_eq_ok_iff.2 ⟨hfits, v, f.header, hv, hheader, rfl⟩

end Packet

end Radius
