import Radius.Proofs.Address.IPv4
import Radius.Proofs.Packet.Additions
import Radius.Proofs.Packet.RoundTrip
import Radius.Proofs.Text.Utf8

/-!
# Typed attributes survive the wire

A packet is built by additions of texts, integers, addresses and byte strings
(`Packet.Addition`). Each of them that can be stored is stored at the end of the packet as its
bytes, and the others are refused (`Packet.put_holding_eq_ok_iff`), so a whole sequence of additions
is stored in order (`Packet.putAll_holding_eq_ok_iff`).

A request for access is decoded to a packet in which the values of a type are those that were added
under it, in order, and the first of them is read in the form it was added in
(`Packet.typed_attributes_survive`).
-/

namespace Radius

namespace Packet

/-! ## Additions -/

/-- What is added to a packet, as the caller gives it : an address is given as a text. -/
inductive Content where
  | text (s : String)
  | integer (n : Int)
  | address (s : String)
  | bytes (b : Bytes)

/-- What can be stored : an integer of four bytes, the text of an address, and every text and byte
string. -/
def Content.Storable : Content → Prop
  | text _ | bytes _ => True
  | integer n => 0 ≤ n ∧ n < 4294967296
  | address s => ∃ x : IPv4, s = x.text

/-- The bytes that are stored. -/
def Content.toBytes : Content → Bytes
  | text s => Text.Utf8.encode s.toList
  | integer n => Bytes.be32 n.toNat
  | address s => match IPv4.ofText s with
    | .ok x => x.toBytes
    | .error _ => []
  | bytes b => b

/-- A content and the type it is added under. -/
structure Addition where
  type : Value
  content : Content

/-- The attribute that an addition leads to. -/
def Addition.stored (a : Addition) : Value × Bytes := (a.type, a.content.toBytes)

/-- Make an addition in the way that fits its content. -/
def put (p : Packet) (a : Addition) : Except PacketError Packet :=
  match a.content with
  | .text s => p.addText a.type (.text s)
  | .integer n => p.addInteger a.type (.integer n)
  | .address s => p.addAddress a.type (.text s)
  | .bytes b => p.add a.type (.bytes b)

/-- Make additions one after the other. -/
def putAll (p : Packet) (additions : List Addition) : Except PacketError Packet :=
  additions.foldlM put p

theorem add_holding (p : Packet) (held : List (Value × Bytes)) (type : Value) (b : Bytes) :
    (p.holding held).add type (.bytes b) = .ok (p.holding (held ++ [(type, b)])) := by
  have hitems : (p.holding held).attributes =
      .list (held.map fun a => .pair a.1 (.bytes a.2)) := rfl
  rw [add_eq hitems, holding, holding, List.map_append]
  rfl

theorem Content.toBytes_address (x : IPv4) : (Content.address x.text).toBytes = x.toBytes := by
  rw [toBytes, IPv4.ofText_eq_ok_iff.2 rfl]

/-- An addition of what can be stored stores its bytes, and any other is refused. -/
theorem put_holding_eq_ok_iff {p q : Packet} {held : List (Value × Bytes)} {a : Addition} :
    (p.holding held).put a = .ok q ↔
      a.content.Storable ∧ q = p.holding (held ++ [a.stored]) := by
  obtain ⟨type, content⟩ := a
  cases content with
  | text s =>
    have hput : (p.holding held).put ⟨type, .text s⟩ = _ := add_holding p held type _
    simp [hput, Content.Storable, Addition.stored, Content.toBytes, eq_comm]
  | bytes b =>
    have hput : (p.holding held).put ⟨type, .bytes b⟩ = _ := add_holding p held type b
    simp [hput, Content.Storable, Addition.stored, Content.toBytes, eq_comm]
  | integer n =>
    have hput : (p.holding held).put ⟨type, .integer n⟩ =
      (p.holding held).addInteger type (.integer n) := rfl
    have hstored (k : Nat) : (Value.integer n).toWordField = .ok k ↔ n = k ∧ k < 4294967296 := by
      rw [Value.toWordField_eq_ok_iff, Value.toInteger?, Option.some_inj]
    rw [hput, addInteger]
    cases hfield : (Value.integer n).toWordField with
    | ok k =>
      obtain ⟨rfl, hlt⟩ := (hstored k).1 hfield
      have hin : (0 : Int) ≤ k ∧ (k : Int) < 4294967296 := by omega
      simp [add_holding, Content.Storable, Addition.stored, Content.toBytes, hin, eq_comm]
    | error why =>
      have hout : ¬(0 ≤ n ∧ n < 4294967296) := fun h => by
        cases hfield.symm.trans ((hstored n.toNat).2 (by omega))
      simp [Content.Storable, hout]
  | address s =>
    have hput : (p.holding held).put ⟨type, .address s⟩ =
      (p.holding held).addAddress type (.text s) := rfl
    rw [hput, addAddress]
    cases haddress : IPv4.ofValue (.text s) with
    | ok x =>
      obtain rfl := IPv4.ofValue_text_eq_ok_iff.1 haddress
      simp [add_holding, Content.Storable, Addition.stored, Content.toBytes_address, eq_comm]
    | error why =>
      have hout : ¬∃ x : IPv4, s = x.text := by
        rintro ⟨x, hx⟩
        cases haddress.symm.trans (IPv4.ofValue_text_eq_ok_iff.2 hx)
      simp [Content.Storable, hout]

/-- A sequence of additions of what can be stored stores their bytes in order, and any other is
refused. -/
theorem putAll_holding_eq_ok_iff {additions : List Addition} {p q : Packet}
    {held : List (Value × Bytes)} :
    (p.holding held).putAll additions = .ok q ↔
      (∀ a ∈ additions, a.content.Storable) ∧
        q = p.holding (held ++ additions.map Addition.stored) := by
  induction additions generalizing held with
  | nil => simp [putAll, eq_comm]
  | cons a rest ih =>
    rw [putAll, List.foldlM_cons, bind_eq_ok_iff]
    constructor
    · rintro ⟨r, hr, hq⟩
      obtain ⟨ha, rfl⟩ := put_holding_eq_ok_iff.1 hr
      obtain ⟨hrest, rfl⟩ := ih.1 hq
      exact ⟨List.forall_mem_cons.2 ⟨ha, hrest⟩, by rw [List.append_assoc]; rfl⟩
    · rintro ⟨hall, rfl⟩
      obtain ⟨ha, hrest⟩ := List.forall_mem_cons.1 hall
      refine ⟨_, put_holding_eq_ok_iff.2 ⟨ha, rfl⟩, ih.2 ⟨hrest, ?_⟩⟩
      rw [List.append_assoc]
      rfl

/-! ## Values looked up -/

/-- An attribute has the type, as an integer, and the value of a pair. -/
def Carries (held : Value × Bytes) (a : Attribute) : Prop :=
  held.1.toInteger? = some (a.type.toNat : Int) ∧ held.2 = a.value

theorem Sends.carries {p : Packet} {held : List (Value × Bytes)} {f : Frame}
    (h : (p.holding held).Sends f) : List.Forall₂ Carries held f.attributes := by
  have hholds := h.holds
  rw [List.forall₂_map_left_iff] at hholds
  refine hholds.imp fun _ _ ⟨type, hpair, htype⟩ => ?_
  obtain ⟨rfl, hvalue⟩ := Value.pair.inj hpair
  exact ⟨htype, Value.bytes.inj hvalue⟩

/-- The item of an attribute has a type that is compared like the one it was sent for. -/
theorem Carries.unpair {held : Value × Bytes} {a : Attribute} (h : Carries held a) (t : Value) :
    ∃ type, a.toItem.unpair = .ok (type, .bytes held.2) ∧ type.same t = held.1.same t :=
  ⟨_, by rw [h.2]; rfl, (Value.same_of_toInteger? h.1 t).symm⟩

section Lookup

variable {held : List (Value × Bytes)} {attributes : List Attribute}
  (h : List.Forall₂ Carries held attributes) (t : Value)
include h

/-- All values of a type are found, in order. -/
theorem allOf_carried : allOf t (attributes.map Attribute.toItem) =
    .ok ((held.filter fun a => a.1.same t).map fun a => .bytes a.2) := by
  induction h with
  | nil => rfl
  | @cons held _ _ _ hfirst _ ih =>
    obtain ⟨type, hunpair, hsame⟩ := hfirst.unpair t
    rw [List.map_cons, allOf, hunpair, ok_bind]
    dsimp only
    rw [ih, ok_bind, hsame, List.filter_cons]
    cases held.1.same t <;> rfl

/-- The first value of a type is found. -/
theorem firstOf_carried : firstOf t (attributes.map Attribute.toItem) =
    .ok (.ofBytes? ((held.find? fun a => a.1.same t).map Prod.snd)) := by
  induction h with
  | nil => rfl
  | @cons held _ _ _ hfirst _ ih =>
    obtain ⟨type, hunpair, hsame⟩ := hfirst.unpair t
    rw [List.map_cons, firstOf, hunpair, ok_bind]
    dsimp only
    rw [hsame, ih, List.find?_cons]
    cases held.1.same t <;> rfl

end Lookup

/-! ## Values read -/

section Read

variable {p : Packet} {t : Value} {b : Bytes} (h : p.get t = .ok (.bytes b))
include h

theorem getInteger_of_get : p.getInteger t =
    if b.length = 4 then .ok (.integer (Bytes.toNat b)) else .error (.decode (.notInteger t)) := by
  rw [getInteger, h, ok_bind]
  by_cases hsize : b.length = 4 <;> simp [Value.length, Value.toBytes?, hsize]

theorem getAddress_of_size (hsize : b.length ≠ 4) :
    p.getAddress t = .error (.decode (.notAddress t)) := by
  rw [getAddress, h, ok_bind]
  simp [Value.length, hsize]

end Read

theorem getAddress_of_get {p : Packet} {t : Value} {x : IPv4}
    (h : p.get t = .ok (.bytes x.toBytes)) : p.getAddress t = .ok (.text x.text) := by
  rw [getAddress, h]
  rfl

/-- The text of the address that four bytes are read as is stored as the same bytes. -/
theorem addAddress_of_getAddress {p : Packet} {t : Value} {b : Bytes}
    (h : p.get t = .ok (.bytes b)) (hsize : b.length = 4) :
    ∃ s, p.getAddress t = .ok (.text s) ∧
      ∀ (q : Packet) (type : Value), q.addAddress type (.text s) = q.add type (.bytes b) := by
  obtain ⟨x, rfl⟩ := IPv4.exists_toBytes hsize
  refine ⟨x.text, getAddress_of_get h, fun q type => ?_⟩
  rw [addAddress, IPv4.ofValue_text_eq_ok_iff.2 rfl, lift_address, mapError_ok, ok_bind]

/-- The content that was added first under a type. -/
def firstUnder (t : Value) (additions : List Addition) : Option Content :=
  (additions.find? fun a => a.type.same t).map Addition.content

/-- What is read under a type after additions : all values added under it, in order, and the first
of them as the text, the integer or the address it was added as. Reading an integer or an address
fails exactly if there is a first value and it has not four bytes. -/
structure Reads (d : Packet) (additions : List Addition) (t : Value) : Prop where
  all : d.getAll t =
    .ok ((additions.filter fun a => a.type.same t).map fun a => .bytes a.content.toBytes)
  text : ∀ s, firstUnder t additions = some (.text s) → d.getText t = .ok (.text s)
  integer : ∀ n, firstUnder t additions = some (.integer n) → d.getInteger t = .ok (.integer n)
  address : ∀ s, firstUnder t additions = some (.address s) → d.getAddress t = .ok (.text s)
  notInteger : ∀ why, d.getInteger t = .error why ↔ ∃ c, firstUnder t additions = some c ∧
    c.toBytes.length ≠ 4 ∧ why = .decode (.notInteger t)
  notAddress : ∀ why, d.getAddress t = .error why ↔ ∃ c, firstUnder t additions = some c ∧
    c.toBytes.length ≠ 4 ∧ why = .decode (.notAddress t)

section Received

variable {d : Packet} {additions : List Addition} {attributes : List Attribute}
  (hd : d.attributes = .list (attributes.map Attribute.toItem))
  (hcarries : List.Forall₂ Carries (additions.map Addition.stored) attributes)
  (t : Value)
include hd hcarries

theorem getAll_carried : d.getAll t =
    .ok ((additions.filter fun a => a.type.same t).map fun a => .bytes a.content.toBytes) := by
  rw [getAll, hd]
  simp only [Value.items, lift_operand, mapError_ok, ok_bind, allOf_carried hcarries,
    List.filter_map, List.map_map]
  rfl

theorem get_carried : d.get t = .ok (.ofBytes? ((firstUnder t additions).map Content.toBytes)) := by
  rw [get, hd]
  simp only [Value.items, lift_operand, mapError_ok, ok_bind, firstOf_carried hcarries,
    List.find?_map, firstUnder, Option.map_map]
  rfl

/-- Additions that could be stored are read as they were made. -/
theorem reads_carried (hstorable : ∀ a ∈ additions, a.content.Storable) : d.Reads additions t := by
  have hget := get_carried hd hcarries t
  have hall := getAll_carried hd hcarries t
  have hfirst (c : Content) (hc : firstUnder t additions = some c) :
      c.Storable ∧ d.get t = .ok (.ofBytes? (some c.toBytes)) := by
    obtain ⟨a, ha, rfl⟩ := Option.map_eq_some_iff.1 hc
    rw [hc] at hget
    exact ⟨hstorable a (List.mem_of_find?_eq_some ha), hget⟩
  refine ⟨hall, fun s hs => ?_, fun n hn => ?_, fun s hs => ?_, fun why => ?_, fun why => ?_⟩
  · rw [getText_of_get (hfirst _ hs).2, Content.toBytes]
    dsimp only
    rw [Text.Utf8.decode_encode, String.ofList_toList]
  · obtain ⟨⟨hlow, hhigh⟩, hstored⟩ := hfirst _ hn
    have hsize : (Bytes.be32 n.toNat).length = 4 := rfl
    rw [getInteger_of_get hstored, Content.toBytes, if_pos hsize, Bytes.toNat_be32 (by omega),
      Int.toNat_of_nonneg hlow]
  · obtain ⟨⟨x, rfl⟩, hstored⟩ := hfirst _ hs
    rw [Content.toBytes_address] at hstored
    exact getAddress_of_get hstored
  · cases hc : firstUnder t additions with
    | none =>
      rw [hc] at hget
      simp [getInteger, hget, Value.ofBytes?]
    | some c =>
      rw [getInteger_of_get (hfirst c hc).2]
      by_cases hsize : c.toBytes.length = 4 <;> simp [hsize, @eq_comm _ why]
  · cases hc : firstUnder t additions with
    | none =>
      rw [hc] at hget
      simp [getAddress, hget, Value.ofBytes?]
    | some c =>
      have hstored := (hfirst c hc).2
      by_cases hsize : c.toBytes.length = 4
      · obtain ⟨s, hs, -⟩ := addAddress_of_getAddress hstored hsize
        simp [hs, hsize]
      · simp [getAddress_of_size hstored hsize, hsize, @eq_comm _ why]

end Received

/-! ## Requests for access -/

theorem holding_nil {p : Packet} (h : p.attributes = .list []) : p.holding [] = p := by
  rw [holding, List.map_nil, ← h]

/-- A request for access that is built by additions alone is decoded, under its own secret and any
other, to a packet that reads as the additions were made. The text of an address that is read of
four bytes leads back to these bytes. -/
theorem typed_attributes_survive {p q : Packet} {additions : List Addition} {w key : Bytes}
    {secret : Value} (hcode : p.code? = some .accessRequest) (hempty : p.attributes = .list [])
    (hq : p.putAll additions = .ok q) (hw : q.encode = .ok w) (hkey : secret.toSecret = .ok key) :
    (∃ d, decode (.bytes w) secret .absent = .ok d ∧ ∀ t, d.Reads additions t) ∧
      ∀ (r : Packet) (t : Value) (b : Bytes), r.get t = .ok (.bytes b) → b.length = 4 →
        ∃ s, r.getAddress t = .ok (.text s) ∧
          ∀ (other : Packet) (type : Value),
            other.addAddress type (.text s) = other.add type (.bytes b) := by
  refine ⟨?_, fun r t b => addAddress_of_getAddress⟩
  rw [← holding_nil hempty, putAll_holding_eq_ok_iff, List.nil_append] at hq
  obtain ⟨hstorable, rfl⟩ := hq
  obtain ⟨f, h, rfl⟩ := encode_eq_ok_iff.1 hw
  have hf : f.code = .accessRequest := Option.some.inj (h.code.symm.trans hcode)
  have hrandom : f.code ≠ .accountingRequest := by rw [hf]; decide
  refine ⟨_, h.decode_random hrandom hkey, fun t => ?_⟩
  exact reads_carried (ofFrame_attributes f key _) h.carries t hstorable

/-- A request for access without attributes. -/
def blankRequest : Packet where
  code := .integer 1
  identifier := .integer 7
  secret := .bytes [0x73]
  authenticator := .bytes (Bytes.zeros authenticatorSize)
  attributes := .list []

/-- Additions of the four kinds, two of them under one type. -/
def mixedAdditions : List Addition :=
  [⟨.integer 1, .text "é"⟩, ⟨.integer 4, .address "192.0.2.7"⟩, ⟨.integer 27, .integer 3600⟩,
    ⟨.integer 1, .bytes [0xff]⟩]

/-- What goes on the wire for them. -/
def mixedWire : Bytes :=
  [1, 7, 0, 39] ++ Bytes.zeros authenticatorSize ++ [1, 4, 0xc3, 0xa9] ++ [4, 6, 192, 0, 2, 7] ++
    [27, 6, 0, 0, 0x0e, 0x10] ++ [1, 3, 0xff]

theorem encode_mixed : (blankRequest.putAll mixedAdditions >>= encode) = .ok mixedWire := by
  decide +kernel

theorem typed_attributes_survive_mixed :
    (blankRequest.putAll mixedAdditions >>= encode) = .ok mixedWire ∧
      (∃ d, decode (.bytes mixedWire) (.text "s") .absent = .ok d ∧
        d.getAll (.integer 1) = .ok [.bytes [0xc3, 0xa9], .bytes [0xff]] ∧
        d.getText (.integer 1) = .ok (.text "é") ∧
        d.getInteger (.integer 27) = .ok (.integer 3600) ∧
        d.getAddress (.integer 4) = .ok (.text "192.0.2.7") ∧
        d.getAddress (.integer 1) = .error (.decode (.notAddress (.integer 1)))) ∧
      ∃ s, (blankRequest.holding [(.integer 8, [10, 0, 0, 1])]).getAddress (.integer 8) =
          .ok (.text s) ∧
        blankRequest.addAddress (.integer 8) (.text s) =
          blankRequest.add (.integer 8) (.bytes [10, 0, 0, 1]) := by
  obtain ⟨q, hq, hw⟩ := bind_eq_ok_iff.1 encode_mixed
  have hkey : (Value.text "s").toSecret = .ok [0x73] := rfl
  obtain ⟨⟨d, hd, hreads⟩, hback⟩ := typed_attributes_survive rfl rfl hq hw hkey
  have hget : (blankRequest.holding [(.integer 8, [10, 0, 0, 1])]).get (.integer 8) =
      .ok (.bytes [10, 0, 0, 1]) := rfl
  obtain ⟨s, hs, hstore⟩ := hback _ _ _ hget rfl
  have hsize : (Content.text "é").toBytes.length ≠ 4 := by decide
  exact ⟨encode_mixed, ⟨d, hd, (hreads _).all, (hreads _).text _ rfl, (hreads _).integer _ rfl,
    (hreads _).address _ rfl, ((hreads _).notAddress _).2 ⟨_, rfl, hsize, rfl⟩⟩, s, hs, hstore _ _⟩

end Packet

end Radius
