import Radius.Packet.Edit
import Radius.Proofs.Packet.Attributes

/-!
# Attributes are added whole or not at all

An edit keeps what it has written when it fails (`Packet.Edit.run_append_throw`), so an addition in
place is atomic only because all that can fail comes before its write. `Insertion.content` is what
comes before : the bytes to be stored, of what the caller gives and of the secret and the
authenticator that hide a password. An insertion whose content cannot be made leaves the packet as
it was, and any other puts one pair at the end of the attributes (`Packet.insertion_atomic`). So of
insertions one after the other, those that fail leave no trace (`Packet.run_performAll`).

An addition in place ends as the operation that makes a new packet (`Packet.perform_run`), which
gives no packet at all when it fails.
-/

namespace Radius.Packet

/-! ## Additions in place and new packets -/

/-- The end of an edit that stands for an operation which makes a new packet. -/
def Edit.ending (p : Packet) : Except PacketError Packet → EStateM.Result PacketError Packet Unit
  | .ok q => .ok () q
  | .error e => .error e p

namespace Edit

variable (p : Packet) (type value : Value)

/-- What is written before an error stays written. -/
theorem run_append_throw {items : List Value} (h : p.attributes = .list items) (item : Value)
    (e : PacketError) :
    (do append item; throw e : Edit Unit).run p =
      .error e { p with attributes := .list (items ++ [item]) } := by
  obtain ⟨code, identifier, secret, authenticator, attributes⟩ := p
  obtain rfl := h
  rfl

theorem run_operand_bind {α β : Type} (x : Except OperandError α) (f : α → Edit β) :
    ((liftM x : Edit α) >>= f).run p = match x with
      | .ok a => (f a).run p
      | .error why => .error (.operand why) p := by
  cases x <;> rfl

theorem run_get_bind {β : Type} (f : Packet → Edit β) :
    (getThe Packet >>= f).run p = (f p).run p := rfl

theorem run_add : (add type value).run p = ending p (p.add type value) := by
  obtain ⟨code, identifier, secret, authenticator, attributes⟩ := p
  rw [add, Packet.add]
  cases value.toByteString <;> cases attributes <;> rfl

theorem run_addText : (addText type value).run p = ending p (p.addText type value) := by
  cases value with
  | text s => exact run_add p type _
  | _ => rfl

theorem run_addInteger : (addInteger type value).run p = ending p (p.addInteger type value) := by
  obtain ⟨code, identifier, secret, authenticator, attributes⟩ := p
  rw [addInteger, Packet.addInteger]
  cases value.toWordField with
  | error why => rfl
  | ok n =>
    -- The addition of a byte string has no error of a field, so none of its errors is caught.
    cases attributes <;> rfl

theorem run_addAddress : (addAddress type value).run p = ending p (p.addAddress type value) := by
  rw [addAddress, Packet.addAddress]
  cases IPv4.ofValue value with
  | error why => rfl
  | ok address => exact run_add p type _

theorem run_addPassword : (addPassword value).run p = ending p (p.addPassword value) := by
  rw [addPassword, Packet.addPassword, run_operand_bind]
  cases value.toSecret with
  | error why => rfl
  | ok bytes =>
    simp only [lift_operand, mapError_ok, ok_bind]
    by_cases hsize : Password.maxSize < bytes.length
    · rw [if_pos hsize, if_pos hsize]
      rfl
    · rw [if_neg hsize, if_neg hsize, run_get_bind, run_operand_bind]
      cases Password.chainOf .hide (.bytes (Password.padded bytes)) p.secret p.authenticator with
      | error why => rfl
      | ok hidden => exact run_add p _ _

end Edit

namespace Insertion

/-- The addition that makes a new packet. -/
def apply (p : Packet) : Insertion → Except PacketError Packet
  | value t v => p.add t v
  | text t v => p.addText t v
  | integer t v => p.addInteger t v
  | address t v => p.addAddress t v
  | password v => p.addPassword v

/-- The bytes that an insertion stores in a packet with a secret and an authenticator. -/
def content (secret authenticator : Value) : Insertion → Except PacketError Bytes
  | value _ v => v.toByteString.mapError .operand
  | text _ (.text s) => .ok (Text.Utf8.encode s.toList)
  | text _ v => .error (.operand (.noMember v.kind "encode"))
  | integer t v => (v.toWordField.mapError fun why => .encode (.integerField t why)).map Bytes.be32
  | address _ v => ((IPv4.ofValue v).mapError .address).map IPv4.toBytes
  | password v => do
    let bytes ← v.toSecret
    if Password.maxSize < bytes.length then throw (.encode .passwordTooLong)
    Password.chainOf .hide (.bytes (Password.padded bytes)) secret authenticator

end Insertion

/-- An insertion in place ends as the one that makes a new packet, and leaves the packet as it was
if that fails. -/
theorem perform_run (i : Insertion) (p : Packet) :
    i.perform.run p = Edit.ending p (i.apply p) := by
  cases i with
  | value type value => exact Edit.run_add p type value
  | text type value => exact Edit.run_addText p type value
  | integer type value => exact Edit.run_addInteger p type value
  | address type value => exact Edit.run_addAddress p type value
  | password value => exact Edit.run_addPassword p value

/-! ## What an insertion writes -/

/-- A packet with one more pair at the end of its attributes. -/
def inserted (p : Packet) (items : List Value) (type : Value) (content : Bytes) : Packet :=
  { p with attributes := .list (items ++ [.pair type (.bytes content)]) }

section Listed

variable {p : Packet} {items : List Value} (h : p.attributes = .list items)
include h

/-- To a list of attributes an insertion adds its content, if it can be made. -/
theorem apply_eq (i : Insertion) :
    i.apply p = (i.content p.secret p.authenticator).map (p.inserted items i.type) := by
  cases i with
  | value type value =>
    rw [Insertion.apply, add, h, Insertion.content]
    cases value.toByteString <;> rfl
  | text type value =>
    cases value with
    | text s => exact add_eq h type _
    | _ => rfl
  | integer type value =>
    rw [Insertion.apply, addInteger, Insertion.content]
    cases value.toWordField with
    | error why => rfl
    | ok n => exact add_eq h type _
  | address type value =>
    rw [Insertion.apply, addAddress, Insertion.content]
    cases IPv4.ofValue value with
    | error why => rfl
    | ok address => exact add_eq h type _
  | password value =>
    rw [Insertion.apply, addPassword, Insertion.content]
    cases value.toSecret with
    | error why => rfl
    | ok bytes =>
      simp only [lift_operand, mapError_ok, ok_bind]
      by_cases hsize : Password.maxSize < bytes.length
      · rw [if_pos hsize, if_pos hsize]
        rfl
      · rw [if_neg hsize, if_neg hsize]
        cases Password.chainOf .hide (.bytes (Password.padded bytes)) p.secret p.authenticator with
        | error why => rfl
        | ok hidden => exact add_eq h _ _

/-- What an insertion in a list of attributes ends with. -/
theorem perform_eq (i : Insertion) :
    i.perform.run p = match i.content p.secret p.authenticator with
      | .ok b => .ok () (p.inserted items i.type b)
      | .error e => .error e p := by
  rw [perform_run, apply_eq h]
  cases i.content p.secret p.authenticator <;> rfl

/-- An insertion fails exactly if its content cannot be made, and then the packet is as it was.
Otherwise it puts one pair of its type and a byte string, the content, at the end of the attributes,
and all else is as it was. -/
theorem insertion_atomic (i : Insertion) :
    (∀ e q, i.perform.run p = .error e q ↔
        i.content p.secret p.authenticator = .error e ∧ q = p) ∧
      ∀ q, i.perform.run p = .ok () q ↔
        ∃ b, i.content p.secret p.authenticator = .ok b ∧
          q = { p with attributes := .list (items ++ [.pair i.type (.bytes b)]) } := by
  rw [perform_eq h i]
  cases i.content p.secret p.authenticator with
  | ok b => simp [inserted, eq_comm]
  | error e => simp [eq_comm]

end Listed

/-- A packet with fields that were set to values of other kinds. -/
def reassignedRequest : Packet where
  code := .text "request"
  identifier := .absent
  secret := .text "s"
  authenticator := .bytes (Bytes.zeros authenticatorSize)
  attributes := .list [.integer 3]

theorem insertion_atomic_reassigned :
    reassignedRequest.attributes = .list [.integer 3] ∧
      (Insertion.password (.text "pw")).perform.run reassignedRequest =
        .error (.operand (.noConcatenation .text .bytes)) reassignedRequest ∧
      (Insertion.integer (.integer 27) (.flag true)).perform.run reassignedRequest =
        .ok () { reassignedRequest with
          attributes := .list [.integer 3, .pair (.integer 27) (.bytes [0, 0, 0, 1])] } := by
  have hlist : reassignedRequest.attributes = .list [.integer 3] := rfl
  exact ⟨hlist, ((insertion_atomic hlist _).1 _ _).2 ⟨rfl, rfl⟩,
    ((insertion_atomic hlist _).2 _).2 ⟨[0, 0, 0, 1], rfl, rfl⟩⟩

/-! ## Insertions one after the other -/

/-- Make an edit, and go on if it fails. -/
def Edit.attempt (x : Edit Unit) : Edit Unit := tryCatch x fun _ => pure ()

theorem Edit.run_attempt (x : Edit Unit) (p : Packet) :
    x.attempt.run p = match x.run p with
      | .ok _ q | .error _ q => .ok () q := by
  show EStateM.tryCatch x (fun _ => pure ()) p = _
  rw [EStateM.tryCatch, EStateM.run]
  cases x p <;> rfl

/-- Make insertions one after the other, and go on after those that fail. -/
def performAll (insertions : List Insertion) : Edit Unit :=
  insertions.forM fun i => i.perform.attempt

/-- The pair that an insertion leaves in a packet with a secret and an authenticator, if any. -/
def Insertion.stored? (secret authenticator : Value) (i : Insertion) : Option Value :=
  match i.content secret authenticator with
  | .ok b => some (.pair i.type (.bytes b))
  | .error _ => none

theorem run_attempt_perform (i : Insertion) {p : Packet} {items : List Value}
    (h : p.attributes = .list items) :
    i.perform.attempt.run p = .ok () { p with
      attributes := .list (items ++ (i.stored? p.secret p.authenticator).toList) } := by
  rw [Edit.run_attempt, perform_eq h, Insertion.stored?]
  cases i.content p.secret p.authenticator with
  | ok b => rfl
  | error e => simp [← h]

/-- Of insertions one after the other, each that succeeds leaves its pair, in order, and those that
fail leave no trace. -/
theorem run_performAll (insertions : List Insertion) {p : Packet} {items : List Value}
    (h : p.attributes = .list items) :
    (performAll insertions).run p = .ok () { p with
      attributes := .list
        (items ++ insertions.filterMap (Insertion.stored? p.secret p.authenticator)) } := by
  induction insertions generalizing p items with
  | nil =>
    rw [List.filterMap_nil, List.append_nil, ← h]
    rfl
  | cons i rest ih =>
    have hfirst : (performAll (i :: rest)).run p =
        (i.perform.attempt >>= fun _ => performAll rest).run p := rfl
    rw [hfirst, EStateM.run_bind, run_attempt_perform i h]
    dsimp only
    rw [ih rfl, List.filterMap_cons]
    cases i.stored? p.secret p.authenticator <;> simp

end Radius.Packet
