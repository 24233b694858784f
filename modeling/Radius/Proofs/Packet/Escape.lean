import Radius.Proofs.Packet.Validity

/-!
# Errors that the encoding does not look for

The fields of a packet can hold values of any kind, and the encoding looks for most of what can be
wrong with them. The rest shows where a value of the wrong kind is used, as an error of another kind
(`Packet.Escapes`) : the identifier cannot be compared with a number, the authenticator has no
length, the attributes are no list, one of them is no pair, and, once everything has passed
(`Packet.Passes`), the identifier is a double or the authenticator no byte string, which do not go
into a header.

`Packet.escapes_iff` : these are exactly the errors of an encoding that are not its own. The items
of the attribute list are walked up to the first that is at fault (`Packet.encodeItems_cases`), and
packing the header is all that is left to fail after them (`Packet.assemble_cases`).
-/

namespace Radius

/-! ## Packing a header -/

namespace Header

variable {c : Code} {identifier authenticator : Value}

theorem ofValues_of_real (c : Code) (x : Binary64) (length authenticator : Value) :
    ofValues c.toValue (.real x) length authenticator = .error .notInteger := by
  have hcode : c.toValue.toByteField = .ok c.number :=
    Value.toByteField_eq_ok_iff.2 ⟨rfl, c.number_lt⟩
  rw [ofValues, hcode]
  rfl

/-- Once the other fields fit, packing a header fails exactly for an authenticator that is no byte
string. -/
theorem ofValues_of_isBetween (hid : identifier.IsBetween 0 255) {n : Nat} (hn : n < 65536) :
    (∃ bytes header, authenticator.toBytesField = .ok bytes ∧
        ofValues c.toValue identifier (.integer n) authenticator = .ok header) ∨
      authenticator.toBytesField = .error .notByteString ∧
        ofValues c.toValue identifier (.integer n) authenticator = .error .notByteString := by
  obtain ⟨b, hb, -⟩ := hid.exists_byte (by decide) (by decide)
  have hpack : ofValues c.toValue identifier (.integer n) authenticator =
      authenticator.toBytesField.map fun a =>
        ⟨UInt8.ofNat c.number, UInt8.ofNat b.toNat, n, a⟩ := by
    have hcode : c.toValue.toByteField = .ok c.number :=
      Value.toByteField_eq_ok_iff.2 ⟨rfl, c.number_lt⟩
    rw [ofValues, hcode, Value.toByteField_eq_ok_iff.2 ⟨hb, b.toNat_lt⟩,
      Value.toShortField_eq_ok_iff.2 ⟨hn, rfl⟩]
    cases authenticator.toBytesField <;> rfl
  rw [hpack]
  cases authenticator with
  | bytes a | buffer a => exact .inl ⟨a, _, rfl, rfl⟩
  | _ => exact .inr ⟨rfl, rfl⟩

end Header

namespace Packet

/-! ## Items that are no pairs -/

/-- The items of a list are pairs of these types and values. -/
def Pairs (items : List Value) (pairs : List (Value × Value)) : Prop :=
  List.Forall₂ (fun item a => item.unpair = .ok a) items pairs

/-- An item of a list is no pair, and all before it can be written. -/
inductive Breaks : List Value → OperandError → Prop
  | here {item : Value} {rest : List Value} {why : OperandError} (h : item.unpair = .error why) :
      Breaks (item :: rest) why
  | later {item : Value} {rest : List Value} {a : Value × Value} {why : OperandError}
      (hitem : item.unpair = .ok a) (ha : Writable a) (h : Breaks rest why) :
      Breaks (item :: rest) why

section Items

variable {item : Value} {a : Value × Value}

/-- An item is written as the pair it is. -/
theorem encodeAttribute_of_unpair (h : item.unpair = .ok a) :
    encodeAttribute item = encodeAttribute (.pair a.1 a.2) := by
  have hpair : (Value.pair a.1 a.2).unpair = .ok a := rfl
  rw [encodeAttribute, encodeAttribute, h, hpair]

theorem encodeAttribute_of_writable (hitem : item.unpair = .ok a) (ha : Writable a) :
    ∃ b, encodeAttribute item = .ok b := by
  obtain ⟨x, hx, htype, hsize⟩ := ha.denotes
  rw [encodeAttribute_of_unpair hitem]
  exact ⟨x.toBytes, encodeAttribute_eq_ok_iff.2 ⟨x, hx, htype, hsize, rfl⟩⟩

theorem Pairs.encodeItems {items : List Value} {pairs : List (Value × Value)}
    (h : Pairs items pairs) :
    Packet.encodeItems items = Packet.encodeItems (pairs.map fun a => .pair a.1 a.2) := by
  induction h with
  | nil => rfl
  | cons hitem _ ih =>
    rw [List.map_cons, Packet.encodeItems, Packet.encodeItems, encodeAttribute_of_unpair hitem, ih]

theorem Breaks.encodeItems {items : List Value} {why : OperandError} (h : Breaks items why) :
    Packet.encodeItems items = .error (.operand why) := by
  induction h with
  | here h =>
    rw [Packet.encodeItems, encodeAttribute, h]
    rfl
  | later hitem ha _ ih =>
    obtain ⟨b, hb⟩ := encodeAttribute_of_writable hitem ha
    rw [Packet.encodeItems, hb, ok_bind, ih, error_bind]

/-- All items of a list are pairs that can be written, or the first that is not is refused for one
reason or the other. -/
theorem encodeItems_cases (items : List Value) :
    (∃ pairs, Pairs items pairs ∧ ∀ a ∈ pairs, Writable a) ∨
      (∃ why, encodeItems items = .error (.encode why)) ∨ ∃ why, Breaks items why := by
  induction items with
  | nil => exact .inl ⟨[], .nil, by simp⟩
  | cons item rest ih =>
    cases hitem : item.unpair with
    | error why => exact .inr (.inr ⟨why, .here hitem⟩)
    | ok a =>
      rcases writable_or_offends a with ha | ⟨why, ha⟩
      · rcases ih with ⟨pairs, hpairs, hwritable⟩ | ⟨why, herror⟩ | ⟨why, hbreaks⟩
        · exact .inl ⟨a :: pairs, .cons hitem hpairs, List.forall_mem_cons.2 ⟨ha, hwritable⟩⟩
        · obtain ⟨b, hb⟩ := encodeAttribute_of_writable hitem ha
          exact .inr (.inl ⟨why, by rw [encodeItems, hb, ok_bind, herror, error_bind]⟩)
        · exact .inr (.inr ⟨why, .later hitem ha hbreaks⟩)
      · refine .inr (.inl ⟨why, ?_⟩)
        rw [encodeItems, encodeAttribute_of_unpair hitem, encodeAttribute_of_offends ha, error_bind]

end Items

/-! ## Errors that escape -/

variable {p : Packet} {c : Code} {key : Bytes}

/-- A packet passes everything that the encoding looks at. -/
def Passes (p : Packet) (c : Code) : Prop :=
  ∃ items pairs, p.Checked c items ∧ Pairs items pairs ∧ (∀ a ∈ pairs, Writable a) ∧
    wireSize pairs ≤ maxPacketSize

/-- The errors of an encoding that it does not look for, each with the packets it comes from. -/
inductive Escapes (p : Packet) : PacketError → Prop
  /-- The identifier cannot be compared with a number. -/
  | identifier {c : Code} (hcode : p.code? = some c) (h : p.identifier.isNumeric = false) :
      Escapes p (.operand (.noOrder "<=" .integer p.identifier.kind))
  /-- The authenticator has no length. -/
  | authenticator {c : Code} {why : OperandError} (hcode : p.code? = some c)
      (hid : p.identifier.within 0 255 = .ok true) (h : p.authenticator.length = .error why) :
      Escapes p (.operand why)
  /-- The attributes are no list. -/
  | attributes {c : Code} {why : OperandError} (hcode : p.code? = some c)
      (hid : p.identifier.within 0 255 = .ok true)
      (hsize : p.authenticator.length = .ok authenticatorSize)
      (h : p.attributes.items = .error why) : Escapes p (.operand why)
  /-- An attribute is no pair. -/
  | item {c : Code} {items : List Value} {why : OperandError} (hchecked : p.Checked c items)
      (h : Breaks items why) : Escapes p (.operand why)
  /-- The identifier is a double. -/
  | double {c : Code} {x : Binary64} (hpasses : p.Passes c) (h : p.identifier = .real x) :
      Escapes p (.field .notInteger)
  /-- The authenticator is used and is no byte string. That of an accounting request is not
  used. -/
  | unpackable {c : Code} (hpasses : p.Passes c) (hid : p.identifier.IsBetween 0 255)
      (hcode : c ≠ .accountingRequest) (h : p.authenticator.toBytesField = .error .notByteString) :
      Escapes p (.field .notByteString)

theorem Escapes.ne_encode {e : PacketError} (h : p.Escapes e) (why : EncodeError) :
    e ≠ .encode why := by
  cases h <;> simp

/-- The authenticator that is packed first : the packet's own, or zeros for an accounting
request. -/
def packed (p : Packet) (c : Code) : Value :=
  if c = .accountingRequest then .bytes (Bytes.zeros authenticatorSize) else p.authenticator

theorem wireAuthenticator_of_random_code (h : c.hasRandomAuthenticator = true) (n : Nat)
    (body : Bytes) : p.wireAuthenticator c n body = .ok (p.packed c) := by
  rw [wireAuthenticator, if_pos h, packed, if_neg (Code.hasRandomAuthenticator_iff.1 h).2]

theorem wireAuthenticator_of_digest (h : ¬c.hasRandomAuthenticator = true)
    (hkey : p.secret = .bytes key) (n : Nat) (body : Bytes) :
    p.wireAuthenticator c n body = (Authenticator.digestOf c.toValue p.identifier (.integer n)
      (p.packed c) (.bytes body) (.bytes key)).map .bytes := by
  rw [wireAuthenticator, if_neg h, hkey]
  rfl

section Assemble

variable (hkey : p.secret = .bytes key) {body : Bytes}
  (hfits : Header.size + body.length ≤ maxPacketSize)
include hkey hfits

/-- What fits a packet is written if the header that is packed first can be. -/
theorem assemble_of_packed {header : Header} (hpack : Header.ofValues c.toValue p.identifier
      (.integer (Header.size + body.length : Nat)) (p.packed c) = .ok header) :
    ∃ w, p.assemble c body = .ok w := by
  by_cases hrandom : c.hasRandomAuthenticator = true
  · exact ⟨_, assemble_eq_ok_iff.2 ⟨hfits, _, header,
      wireAuthenticator_of_random_code hrandom _ body, hpack, rfl⟩⟩
  · -- The digest takes the place of the authenticator, and the other fields fit as before.
    obtain ⟨hc, hid, hlength, hn, -⟩ := Header.ofValues_eq_ok_iff.1 hpack
    have hwire := wireAuthenticator_of_digest hrandom hkey (Header.size + body.length) body
    rw [Authenticator.digestOf_bytes hpack] at hwire
    exact ⟨_, assemble_eq_ok_iff.2 ⟨hfits, _,
      { header with authenticator := Authenticator.digest header body key }, hwire,
      Header.ofValues_eq_ok_iff.2 ⟨hc, hid, hlength, hn, rfl⟩, rfl⟩⟩

theorem assemble_of_unpacked {e : FieldError} (hpack : Header.ofValues c.toValue p.identifier
      (.integer (Header.size + body.length : Nat)) (p.packed c) = .error e) :
    p.assemble c body = .error (.field e) := by
  rw [assemble, if_neg (Nat.not_lt.2 hfits)]
  by_cases hrandom : c.hasRandomAuthenticator = true
  · rw [wireAuthenticator_of_random_code hrandom, ok_bind, hpack]
    rfl
  · rw [wireAuthenticator_of_digest hrandom hkey, Authenticator.digestOf, hpack]
    rfl

end Assemble

theorem Passes.encode (h : p.Passes c) :
    ∃ body, Header.size + body.length ≤ maxPacketSize ∧ p.encode = p.assemble c body := by
  obtain ⟨items, pairs, hchecked, hpairs, hwritable, hfits⟩ := h
  obtain ⟨attributes, hdenotes, hbody⟩ := encodeItems_of_writable hwritable
  rw [wireSize_eq hdenotes] at hfits
  rw [hchecked.encode, hpairs.encodeItems, hbody, ok_bind]
  exact ⟨_, hfits, rfl⟩

theorem Passes.identifier (h : p.Passes c) : p.identifier.within 0 255 = .ok true := by
  obtain ⟨items, pairs, hchecked, -⟩ := h
  exact hchecked.identifier

/-- The header of what passes is packed, or one of two errors escapes. -/
theorem Passes.packs_or_escapes (h : p.Passes c) {n : Nat} (hn : n < 65536) :
    (∃ header, Header.ofValues c.toValue p.identifier (.integer n) (p.packed c) = .ok header) ∨
      ∃ e, p.Escapes e := by
  rcases Value.real_or_isBetween_of_within h.identifier with ⟨x, hx⟩ | hid
  · exact .inr ⟨_, .double h hx⟩
  · rcases Header.ofValues_of_isBetween hid hn with ⟨_, header, -, hheader⟩ | ⟨hbytes, -⟩
    · exact .inl ⟨header, hheader⟩
    · by_cases hcode : c = .accountingRequest
      · rw [packed, if_pos hcode] at hbytes
        cases hbytes
      · rw [packed, if_neg hcode] at hbytes
        exact .inr ⟨_, .unpackable h hid hcode hbytes⟩

/-! ## Encoding -/

/-- The checks made before the attributes are written are passed, or fail with an error of the
encoding, or with one that escapes. -/
theorem checked_cases (p : Packet) :
    (∃ c items, p.Checked c items) ∨ (∃ why, p.encode = .error (.encode why)) ∨
      ∃ e, p.Escapes e := by
  cases hcode : p.code? with
  | none =>
    refine .inr (.inl ⟨.unknownCode p.code, ?_⟩)
    rw [encode, hcode]
    rfl
  | some c =>
    cases hnumeric : p.identifier.isNumeric with
    | false => exact .inr (.inr ⟨_, .identifier hcode hnumeric⟩)
    | true =>
      obtain ⟨inside, hid⟩ := Value.within_of_isNumeric hnumeric 0 255
      cases inside with
      | false =>
        refine .inr (.inl ⟨.identifierRange, ?_⟩)
        rw [encode, hcode]
        simp [hid]
      | true =>
        cases hlength : p.authenticator.length with
        | error why => exact .inr (.inr ⟨_, .authenticator hcode hid hlength⟩)
        | ok n =>
          by_cases hn : n = authenticatorSize
          · cases hitems : p.attributes.items with
            | error why => exact .inr (.inr ⟨_, .attributes hcode hid (hn ▸ hlength) hitems⟩)
            | ok items => exact .inl ⟨c, items, hcode, hid, hn ▸ hlength, hitems⟩
          · exact .inr (.inl ⟨_, encode_of_size_ne hcode hid hlength hn⟩)

section Secret

variable (hkey : p.secret = .bytes key)
include hkey

/-- What escapes is what the encoding fails with. -/
theorem Escapes.encode {e : PacketError} (h : p.Escapes e) : p.encode = .error e := by
  cases h with
  | identifier hcode h =>
    rw [Packet.encode, hcode]
    simp [Value.within_of_isNumeric_eq_false h]
  | authenticator hcode hid h =>
    rw [Packet.encode, hcode]
    simp [hid, h]
  | attributes hcode hid hsize h =>
    rw [Packet.encode, hcode]
    simp [hid, hsize, h]
  | item hchecked h => rw [hchecked.encode, h.encodeItems, error_bind]
  | @double c x hpasses h =>
    obtain ⟨body, hfits, hencode⟩ := hpasses.encode
    rw [hencode]
    refine assemble_of_unpacked hkey hfits ?_
    rw [h]
    exact Header.ofValues_of_real c x _ _
  | @unpackable c hpasses hid hcode h =>
    obtain ⟨body, hfits, hencode⟩ := hpasses.encode
    have hn : Header.size + body.length < 65536 := Nat.lt_of_le_of_lt hfits (by decide)
    rw [hencode]
    refine assemble_of_unpacked hkey hfits ?_
    rw [packed, if_neg hcode]
    rcases Header.ofValues_of_isBetween hid hn with ⟨_, _, hbytes, -⟩ | ⟨-, herror⟩
    · cases hbytes.symm.trans h
    · exact herror

/-- A packet is encoded, or refused by the encoding, or an error escapes. -/
theorem encode_cases :
    (∃ w, p.encode = .ok w) ∨ (∃ why, p.encode = .error (.encode why)) ∨ ∃ e, p.Escapes e := by
  rcases p.checked_cases with ⟨c, items, hchecked⟩ | hother
  · rcases encodeItems_cases items with ⟨pairs, hpairs, hwritable⟩ | ⟨why, herror⟩ | ⟨why, hbreaks⟩
    · by_cases hsize : wireSize pairs ≤ maxPacketSize
      · have hpasses : p.Passes c := ⟨items, pairs, hchecked, hpairs, hwritable, hsize⟩
        obtain ⟨body, hfits, hencode⟩ := hpasses.encode
        have hn : Header.size + body.length < 65536 := Nat.lt_of_le_of_lt hfits (by decide)
        rcases hpasses.packs_or_escapes hn with ⟨header, hpack⟩ | hescapes
        · exact .inl (hencode ▸ assemble_of_packed hkey hfits hpack)
        · exact .inr (.inr hescapes)
      · obtain ⟨attributes, hdenotes, hbody⟩ := encodeItems_of_writable hwritable
        rw [wireSize_eq hdenotes, Nat.not_le] at hsize
        refine .inr (.inl
          ⟨.packetTooLarge (Header.size + (Attribute.encode attributes).length), ?_⟩)
        rw [hchecked.encode, hpairs.encodeItems, hbody, ok_bind, assemble, if_pos hsize]
        rfl
    · refine .inr (.inl ⟨why, ?_⟩)
      rw [hchecked.encode, herror, error_bind]
    · exact .inr (.inr ⟨_, .item hchecked hbreaks⟩)
  · exact .inr hother

/-- What escapes are exactly the errors of an encoding that are not its own. -/
theorem escapes_iff {e : PacketError} :
    p.Escapes e ↔ p.encode = .error e ∧ ∀ why, e ≠ .encode why := by
  refine ⟨fun h => ⟨h.encode hkey, h.ne_encode⟩, ?_⟩
  rintro ⟨herror, hother⟩
  rcases encode_cases hkey with ⟨w, hw⟩ | ⟨why, hwhy⟩ | ⟨e', hescapes⟩
  · cases hw.symm.trans herror
  · exact absurd (Except.error.inj (herror.symm.trans hwhy)) (hother why)
  · rwa [Except.error.inj (herror.symm.trans (hescapes.encode hkey))]

end Secret

end Packet

end Radius
