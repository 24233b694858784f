import Radius.Packet.Attributes
import Radius.Proofs.Packet.Decoding
import Radius.Proofs.Packet.Encoding

/-!
# Attributes of decoded packets

A decoded packet holds attributes of integer types and byte string values. The first one of a type
(`Attribute.first?`) decides what is looked up : the value itself (`Packet.get_eq`), its text
(`Packet.getText_eq`), or the password revealed from it (`Packet.getPassword_eq`). All values of a
type can be looked up, too (`Packet.getAll_eq`). A byte string can be added to any attribute list
(`Packet.add_eq`), also the hidden form of a password (`Packet.addPassword_eq`).
-/

namespace Radius

/-- The value of the first attribute of a type. -/
def Attribute.first? (type : Nat) (attributes : List Attribute) : Option Bytes :=
  (attributes.find? fun a => a.type.toNat == type).map Attribute.value

/-- The values of all attributes of a type, in order. -/
def Attribute.allOf (type : Nat) (attributes : List Attribute) : List Bytes :=
  (attributes.filter fun a => a.type.toNat == type).map Attribute.value

theorem Attribute.holds_toItem (attributes : List Attribute) :
    List.Forall₂ Value.Holds (attributes.map toItem) attributes :=
  List.forall₂_map_left_iff.2 (List.forall₂_same.2 fun _ _ => ⟨_, rfl, rfl⟩)

/-- An item that holds an attribute is taken apart into its type, compared as the number it is, and
its value. -/
theorem Value.Holds.unpair {item : Value} {a : Attribute} (h : item.Holds a) (type : Nat) :
    ∃ t, item.unpair = .ok (t, .bytes a.value) ∧
      t.same (.integer type) = decide (a.type.toNat = type) := by
  obtain ⟨t, rfl, ht⟩ := h
  exact ⟨t, rfl, by simp only [same_integer_of_toInteger? ht, Int.natCast_inj]⟩

/-- The chain over three byte strings. -/
theorem Password.chainOf_bytes (direction : Direction) (data secret authenticator : Bytes) :
    chainOf direction (.bytes data) (.bytes secret) (.bytes authenticator) =
      .ok (chain direction secret authenticator data) := by
  cases data with
  | nil => simp [chainOf, chain, Value.length]
  | cons first rest =>
    have hsize : ¬(first :: rest).length = 0 := by simp
    simp only [chainOf, Value.length, ok_bind, if_neg hsize]
    simp [Value.append, Value.toHashInput, Value.toBytes?, toMaskable]

namespace Packet

/-- What is found first in a list of items is the value of the first attribute they hold. -/
theorem firstOf_eq (type : Nat) {items : List Value} {attributes : List Attribute}
    (h : List.Forall₂ Value.Holds items attributes) :
    firstOf (.integer type) items = .ok (.ofBytes? (Attribute.first? type attributes)) := by
  induction h with
  | nil => rfl
  | @cons _ a _ _ hitem _ ih =>
    obtain ⟨t, hunpair, hsame⟩ := hitem.unpair type
    rw [firstOf, hunpair, ok_bind]
    simp only [hsame, decide_eq_true_eq]
    by_cases ha : a.type.toNat = type
    · simp [ha, Attribute.first?, Value.ofBytes?]
    · simp [ha, ih, Attribute.first?]

/-- What is found in a list of items are the values of the attributes they hold. -/
theorem allOf_eq (type : Nat) {items : List Value} {attributes : List Attribute}
    (h : List.Forall₂ Value.Holds items attributes) :
    allOf (.integer type) items = .ok ((Attribute.allOf type attributes).map .bytes) := by
  induction h with
  | nil => rfl
  | @cons _ a _ _ hitem _ ih =>
    obtain ⟨t, hunpair, hsame⟩ := hitem.unpair type
    rw [allOf, hunpair, ok_bind, ih]
    simp only [hsame, decide_eq_true_eq, ok_bind]
    by_cases ha : a.type.toNat = type
    · simp [ha, Attribute.allOf]
    · simp [ha, Attribute.allOf]

theorem firstOf_map_toItem (type : Nat) (attributes : List Attribute) :
    firstOf (.integer type) (attributes.map Attribute.toItem) =
      .ok (.ofBytes? (Attribute.first? type attributes)) :=
  firstOf_eq type (Attribute.holds_toItem attributes)

theorem add_eq {p : Packet} {items : List Value} (h : p.attributes = .list items) (type : Value)
    (b : Bytes) : p.add type (.bytes b) =
      .ok { p with attributes := .list (items ++ [.pair type (.bytes b)]) } := by
  rw [add, h]
  rfl

/-- A password that is not too long is added as its hidden form. -/
theorem addPassword_eq {p : Packet} {key a password : Bytes} {given : Value}
    (hsecret : p.secret = .bytes key) (ha : p.authenticator = .bytes a)
    (hpassword : given.toSecret = .ok password) (hsize : password.length ≤ Password.maxSize) :
    p.addPassword given = p.add (.integer Dictionary.userPassword)
      (.bytes (Password.hide key a (Password.padded password))) := by
  rw [addPassword, hpassword, hsecret, ha]
  simp only [lift_operand, mapError_ok, ok_bind, if_neg (Nat.not_lt.2 hsize),
    Password.chainOf_bytes, Password.hide]

section Found

variable {p : Packet} {found : Option Bytes}

theorem getText_of_get {type : Value} : p.get type = .ok (.ofBytes? found) →
    p.getText type = match found with
      | none => .ok .absent
      | some b => .ok (.text (String.ofList (Text.Utf8.decode b))) := by
  intro h
  rw [getText, h, ok_bind]
  cases found <;> rfl

theorem getPassword_of_get {secret authenticator : Bytes} (hsecret : p.secret = .bytes secret)
    (ha : p.authenticator = .bytes authenticator) :
    p.get (.integer Dictionary.userPassword) = .ok (.ofBytes? found) →
    p.getPassword = match found with
      | none => .ok .absent
      | some hidden =>
        if hidden = [] ∨ hidden.length % Password.blockSize ≠ 0 then
          .error (.decode .passwordSize)
        else .ok (.bytes (Bytes.trimZeros (Password.reveal secret authenticator hidden))) := by
  intro h
  rw [getPassword, h, ok_bind]
  cases found with
  | none => rfl
  | some hidden =>
    by_cases hempty : hidden = []
    · simp [hempty, Value.ofBytes?, Value.isFilled]
    · by_cases hblocks : hidden.length % Password.blockSize = 0
      · simp [hempty, hblocks, Value.ofBytes?, Value.isFilled, Value.length, hsecret, ha,
          Password.chainOf_bytes, Password.reveal]
      · simp [hempty, hblocks, Value.ofBytes?, Value.isFilled, Value.length]

end Found

section Decoded

variable {p : Packet} {attributes : List Attribute}
  (hp : p.attributes = .list (attributes.map Attribute.toItem))
include hp

theorem get_eq (type : Nat) :
    p.get (.integer type) = .ok (.ofBytes? (Attribute.first? type attributes)) := by
  rw [get, hp]
  simp [Value.items, firstOf_map_toItem]

theorem getAll_eq (type : Nat) :
    p.getAll (.integer type) = .ok ((Attribute.allOf type attributes).map .bytes) := by
  rw [getAll, hp]
  simp [Value.items, allOf_eq type (Attribute.holds_toItem attributes)]

theorem getText_eq (type : Nat) :
    p.getText (.integer type) = match Attribute.first? type attributes with
      | none => .ok .absent
      | some b => .ok (.text (String.ofList (Text.Utf8.decode b))) :=
  getText_of_get (get_eq hp type)

theorem getPassword_eq {secret authenticator : Bytes} (hsecret : p.secret = .bytes secret)
    (ha : p.authenticator = .bytes authenticator) :
    p.getPassword = match Attribute.first? Dictionary.userPassword attributes with
      | none => .ok .absent
      | some hidden =>
        if hidden = [] ∨ hidden.length % Password.blockSize ≠ 0 then
          .error (.decode .passwordSize)
        else .ok (.bytes (Bytes.trimZeros (Password.reveal secret authenticator hidden))) :=
  getPassword_of_get hsecret ha (get_eq hp _)

end Decoded

end Packet

end Radius
