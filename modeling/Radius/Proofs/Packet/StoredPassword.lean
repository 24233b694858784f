import Mathlib.Order.Bounds.Basic
import Radius.Proofs.Packet.Attributes
import Radius.Proofs.Packet.RoundTrip
import Radius.Proofs.Password

/-!
# Passwords stored in packets

A password of at most 128 bytes is stored as one attribute at the end of a packet, padded to the
next whole number of blocks and hidden; a longer one is refused. Where the packet holds no password
before, the stored one is read back without the zeros at its end : from the packet itself, and from
what a request with a random authenticator or a response is decoded to
(`Packet.password_recoverable`).

What is looked up first in a packet is what it is sent with first under the type
(`Packet.Sends.first?_of_get`), and the authenticator that hid the password is the one that the
decoded packet holds.
-/

namespace Radius

/-! ## Padded passwords -/

namespace Password

/-- A password is padded to the fewest whole blocks that hold it, and to one at least. -/
theorem length_padded_isLeast (password : Bytes) :
    IsLeast {n | 0 < n ∧ blockSize ∣ n ∧ password.length ≤ n} (padded password).length := by
  rw [length_padded]
  simp only [blockSize]
  constructor
  · exact ⟨by omega, by omega, by omega⟩
  · rintro n ⟨hpos, hdvd, hle⟩
    omega

/-- A password that is not too long is hidden in an attribute that is not. -/
theorem length_padded_le {password : Bytes} (h : password.length ≤ maxSize) :
    (padded password).length ≤ maxSize := by
  have hwhole : maxSize ∈ {n | 0 < n ∧ blockSize ∣ n ∧ password.length ≤ n} :=
    ⟨by decide, by decide, h⟩
  exact (length_padded_isLeast password).2 hwhole

end Password

namespace Packet

/-! ## What is looked up first -/

/-- The items of an attribute list are pairs, and none of them is of a type. -/
def Lacks (type : Value) (items : List Value) : Prop :=
  ∀ item ∈ items, ∃ t v, item.unpair = .ok (t, v) ∧ t.same type = false

theorem firstOf_append {type : Value} {items : List Value} (h : Lacks type items)
    (rest : List Value) : firstOf type (items ++ rest) = firstOf type rest := by
  induction items with
  | nil => rfl
  | cons item items ih =>
    obtain ⟨⟨t, v, hunpair, hother⟩, hitems⟩ := List.forall_mem_cons.1 h
    rw [List.cons_append, firstOf, hunpair, ok_bind]
    dsimp only
    rw [hother, if_neg Bool.false_ne_true, ih hitems]

/-- A byte string that is found first in a list of items is the value of the first attribute they
stand for. -/
theorem first?_of_firstOf {type : Nat} {items : List Value} {attributes : List Attribute}
    {b : Bytes} (h : List.Forall₂ Value.Denotes items attributes)
    (hfirst : firstOf (.integer type) items = .ok (.bytes b)) :
    Attribute.first? type attributes = some b := by
  induction h with
  | nil => cases hfirst
  | @cons _ a _ _ hitem _ ih =>
    obtain ⟨t, v, hunpair, ht, hv⟩ := hitem
    rw [firstOf, hunpair, ok_bind] at hfirst
    simp only [Value.same_integer_of_toInteger? ht, decide_eq_true_eq, Int.natCast_inj] at hfirst
    by_cases ha : a.type.toNat = type
    · rw [if_pos ha] at hfirst
      obtain rfl := Except.ok.inj hfirst
      obtain rfl := Option.some.inj hv
      simp [Attribute.first?, ha]
    · rw [if_neg ha] at hfirst
      simpa [Attribute.first?, ha] using ih hfirst

/-- What is looked up first in a packet is what it is sent with first. -/
theorem Sends.first?_of_get {p : Packet} {f : Frame} (h : p.Sends f) {type : Nat} {b : Bytes}
    (hget : p.get (.integer type) = .ok (.bytes b)) :
    Attribute.first? type f.attributes = some b := by
  obtain ⟨items, hitems, hdenotes⟩ := h.attributes
  rw [get, hitems, lift_operand, mapError_ok, ok_bind, lift_operand, mapError_eq_ok_iff] at hget
  exact first?_of_firstOf hdenotes hget

/-! ## Reading the password -/

/-- The hidden form of a password, read with the secret and the authenticator that hid it. -/
theorem getPassword_of_hidden {p : Packet} {key a password : Bytes}
    (hsecret : p.secret = .bytes key) (ha : p.authenticator = .bytes a)
    (hget : p.get (.integer Dictionary.userPassword) =
      .ok (.ofBytes? (some (Password.hide key a (Password.padded password))))) :
    p.getPassword = .ok (.bytes (Bytes.trimZeros password)) := by
  obtain ⟨hne, hwhole⟩ := Password.hide_padded_whole key a password
  rw [getPassword_of_get hsecret ha hget]
  dsimp only
  rw [if_neg (not_or.2 ⟨hne, not_not.2 hwhole⟩), Password.trimZeros_reveal_hide]

/-- A packet that is sent is decoded to one that holds the same hidden password. -/
theorem Sends.getPassword_ofFrame {p : Packet} {f : Frame} (h : p.Sends f)
    {key a password : Bytes}
    (hget : p.get (.integer Dictionary.userPassword) =
      .ok (.bytes (Password.hide key a (Password.padded password)))) :
    (ofFrame f key (.bytes a)).getPassword = .ok (.bytes (Bytes.trimZeros password)) := by
  refine getPassword_of_hidden rfl rfl ?_
  rw [Packet.get_eq (ofFrame_attributes f key (.bytes a)), h.first?_of_get hget]

/-! ## Storing the password -/

/-- An attribute list with a hidden password at its end. -/
def withPassword (items : List Value) (hidden : Bytes) : Value :=
  .list (items ++ [.pair (.integer Dictionary.userPassword) (.bytes hidden)])

theorem addPassword_of_fits {p : Packet} {key a password : Bytes} {given : Value}
    {items : List Value} (hsecret : p.secret = .bytes key) (ha : p.authenticator = .bytes a)
    (hitems : p.attributes = .list items) (hpassword : given.toSecret = .ok password)
    (hsize : password.length ≤ Password.maxSize) :
    p.addPassword given = .ok { p with
      attributes := withPassword items (Password.hide key a (Password.padded password)) } := by
  rw [addPassword_eq hsecret ha hpassword hsize, add_eq hitems, withPassword]

theorem addPassword_of_too_long (p : Packet) {password : Bytes} {given : Value}
    (hpassword : given.toSecret = .ok password) (hsize : Password.maxSize < password.length) :
    p.addPassword given = .error (.encode .passwordTooLong) := by
  rw [addPassword, hpassword, lift_operand, mapError_ok, ok_bind, if_pos hsize]
  rfl

/-- A hidden password that is not too long is written as an attribute. -/
theorem encodeAttribute_password {hidden : Bytes} (h : hidden.length ≤ Password.maxSize) :
    encodeAttribute (.pair (.integer Dictionary.userPassword) (.bytes hidden)) =
      .ok (Attribute.toBytes ⟨UInt8.ofNat Dictionary.userPassword, hidden⟩) := by
  have htype : UInt8.ofNat Dictionary.userPassword ≠ 0 := by decide
  have hvalue : hidden.length ≤ Attribute.maxValueSize := Nat.le_trans h (by decide)
  exact encodeAttribute_eq_ok_iff.2 ⟨⟨UInt8.ofNat Dictionary.userPassword, hidden⟩,
    Value.denotes_pair_iff.2 ⟨rfl, rfl⟩, htype, hvalue, rfl⟩

/-- What is stored in a packet can be read : from the packet, and after it was encoded and decoded
under its secret. A response is decoded with the authenticator of the request it answers. -/
structure Recovers (p : Packet) (key a shown : Bytes) : Prop where
  stored : p.getPassword = .ok (.bytes shown)
  request : ∀ w c secret, p.encode = .ok w → p.code? = some c → c.hasRandomAuthenticator = true →
    secret.toSecret = .ok key →
      ∃ d, decode (.bytes w) secret .absent = .ok d ∧ d.getPassword = .ok (.bytes shown)
  response : ∀ w c secret, p.encode = .ok w → p.code? = some c → c.isRequest = false →
    secret.toSecret = .ok key →
      ∃ d, decode (.bytes w) secret (.bytes a) = .ok d ∧ d.getPassword = .ok (.bytes shown)

theorem recovers_of_get {p : Packet} {key a password : Bytes} (hsecret : p.secret = .bytes key)
    (ha : p.authenticator = .bytes a)
    (hget : p.get (.integer Dictionary.userPassword) =
      .ok (.bytes (Password.hide key a (Password.padded password)))) :
    p.Recovers key a (Bytes.trimZeros password) where
  stored := getPassword_of_hidden hsecret ha hget
  request w c secret hw hcode hrandom hkey := by
    obtain ⟨f, h, rfl⟩ := encode_eq_ok_iff.1 hw
    obtain rfl := Option.some.inj (h.code.symm.trans hcode)
    have hdecode := decode_toBytes h.sound hkey (h.authentic_none hsecret)
    rw [Option.getD_none, h.authenticator_eq hrandom ha] at hdecode
    exact ⟨_, hdecode, h.getPassword_ofFrame hget⟩
  response w c secret hw hcode hresponse hkey := by
    obtain ⟨f, h, rfl⟩ := encode_eq_ok_iff.1 hw
    obtain rfl := Option.some.inj (h.code.symm.trans hcode)
    have hdecode := decode_toBytes h.sound hkey (h.authentic_some hsecret hresponse ha)
    exact ⟨_, hdecode, h.getPassword_ofFrame hget⟩

/-- A password is refused exactly if it is too long. Otherwise it is stored at the end of a packet
as an attribute of the fewest whole blocks that hold it, and at least one, which can be written, and
is read back without the zeros at its end. -/
theorem password_recoverable {p : Packet} {key a password : Bytes} {given : Value}
    {items : List Value} (hsecret : p.secret = .bytes key) (ha : p.authenticator = .bytes a)
    (hitems : p.attributes = .list items)
    (hlacks : Lacks (.integer Dictionary.userPassword) items)
    (hpassword : given.toSecret = .ok password) :
    (∀ why, p.addPassword given = .error why ↔
        why = .encode .passwordTooLong ∧ Password.maxSize < password.length) ∧
      (password.length ≤ Password.maxSize → ∃ hidden,
        p.addPassword given = .ok { p with attributes := withPassword items hidden } ∧
          IsLeast {n | 0 < n ∧ Password.blockSize ∣ n ∧ password.length ≤ n} hidden.length ∧
          hidden.length ≤ Password.maxSize ∧
          (∃ out, encodeAttribute (.pair (.integer Dictionary.userPassword) (.bytes hidden)) =
            .ok out) ∧
          Recovers { p with attributes := withPassword items hidden } key a
            (Bytes.trimZeros password)) := by
  constructor
  · intro why
    by_cases hsize : Password.maxSize < password.length
    · simp [p.addPassword_of_too_long hpassword hsize, hsize, eq_comm]
    · have hstored := addPassword_of_fits hsecret ha hitems hpassword (Nat.not_lt.1 hsize)
      simp [hstored, hsize]
  · intro hsize
    have hlength : (Password.hide key a (Password.padded password)).length =
        (Password.padded password).length := Password.length_chain .hide key a _
    have hleast := Password.length_padded_isLeast password
    have hmax := Password.length_padded_le hsize
    rw [← hlength] at hleast hmax
    refine ⟨_, addPassword_of_fits hsecret ha hitems hpassword hsize, hleast, hmax,
      ⟨_, encodeAttribute_password hmax⟩, ?_⟩
    refine recovers_of_get hsecret ha ?_
    simp only [get, withPassword, Value.items, lift_operand, mapError_ok, ok_bind]
    rw [firstOf_append hlacks]
    rfl

/-- A request for access of a user, without a password. -/
def carolRequest : Packet where
  code := .integer 1
  identifier := .integer 3
  secret := .bytes [0x73]
  authenticator := .bytes (Bytes.zeros authenticatorSize)
  attributes := .list [.pair (.integer 1) (.bytes [0x63])]

/-- What goes on the wire for the request with a password that ends with a zero. -/
def carolWire : Bytes :=
  [1, 3, 0, 41] ++ Bytes.zeros authenticatorSize ++ [1, 3, 0x63] ++
    [2, 18, 0x1a, 0x77, 0x2d, 0xdb, 0x93, 0xfc, 0xbc, 0x0d, 0xd3, 0xeb, 0xd0, 0x93, 0, 0x97, 0x0f,
      0xc8]

theorem encode_carol :
    (carolRequest.addPassword (.bytes [0x70, 0x77, 0]) >>= encode) = .ok carolWire := by
  decide +kernel

theorem password_recoverable_carol :
    (carolRequest.addPassword (.text (String.ofList (List.replicate 129 'a')))) =
        .error (.encode .passwordTooLong) ∧
      ∃ p, carolRequest.addPassword (.bytes [0x70, 0x77, 0]) = .ok p ∧
        p.getPassword = .ok (.bytes [0x70, 0x77]) ∧ p.encode = .ok carolWire ∧
        ∃ d, decode (.bytes carolWire) (.text "s") .absent = .ok d ∧
          d.getPassword = .ok (.bytes [0x70, 0x77]) := by
  have hsecret : carolRequest.secret = .bytes [0x73] := rfl
  have ha : carolRequest.authenticator = .bytes (Bytes.zeros authenticatorSize) := rfl
  have hitems : carolRequest.attributes = .list [.pair (.integer 1) (.bytes [0x63])] := rfl
  have hlacks : Lacks (.integer Dictionary.userPassword) [.pair (.integer 1) (.bytes [0x63])] :=
    List.forall_mem_singleton.2 ⟨_, _, rfl, rfl⟩
  have hlong : (Value.text (String.ofList (List.replicate 129 'a'))).toSecret =
      .ok (List.replicate 129 0x61) := by
    rw [Value.toSecret, String.toList_ofList]
    decide +kernel
  have hshort : (Value.bytes [0x70, 0x77, 0]).toSecret = .ok [0x70, 0x77, 0] := rfl
  have hrefused := (password_recoverable hsecret ha hitems hlacks hlong).1
  obtain ⟨hidden, hp, -, -, -, hrecovers⟩ :=
    (password_recoverable hsecret ha hitems hlacks hshort).2 (by decide)
  have hw := encode_carol
  rw [hp, ok_bind] at hw
  have hsize : Password.maxSize < (List.replicate 129 (0x61 : UInt8)).length := by
    rw [List.length_replicate]
    decide
  exact ⟨(hrefused _).2 ⟨rfl, hsize⟩, _, hp, hrecovers.stored, hw,
    hrecovers.request _ _ _ hw rfl rfl rfl⟩

end Packet

end Radius
