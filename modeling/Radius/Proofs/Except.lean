import Radius.Packet.Error

/-!
# Operations that can fail, one after the other

A chain of operations succeeds exactly if each of them does (`bind_eq_ok_iff`). An operation of a
narrower kind of error succeeds with the same value among operations on packets, and its error
becomes one of theirs (`lift_decode`, `lift_field`, `lift_operand`, `lift_address`).
-/

namespace Radius

variable {ε δ α β : Type}

@[simp] theorem ok_bind (a : α) (f : α → Except ε β) : (Except.ok a >>= f) = f a := rfl

@[simp] theorem error_bind (e : ε) (f : α → Except ε β) :
    (Except.error e >>= f) = .error e := rfl

@[simp] theorem pure_eq_ok (a : α) : (pure a : Except ε α) = .ok a := rfl

@[simp] theorem throw_eq_error (e : ε) : (throw e : Except ε α) = .error e := rfl

@[simp] theorem mapError_ok (f : δ → ε) (a : α) : (Except.ok a).mapError f = .ok a := rfl

@[simp] theorem mapError_error (f : δ → ε) (e : δ) :
    (Except.error e : Except δ α).mapError f = .error (f e) := rfl

/-- Whether an operation succeeds with a value can be computed. -/
instance decidableEqOk [DecidableEq α] : ∀ (x : Except ε α) (a : α), Decidable (x = .ok a)
  | .ok b, a => decidable_of_iff (b = a) ⟨congrArg Except.ok, Except.ok.inj⟩
  | .error _, _ => isFalse nofun

theorem bind_eq_ok_iff {x : Except ε α} {f : α → Except ε β} {b : β} :
    (x >>= f) = .ok b ↔ ∃ a, x = .ok a ∧ f a = .ok b := by
  cases x <;> simp

theorem map_eq_ok_iff {x : Except ε α} {f : α → β} {b : β} :
    x.map f = .ok b ↔ ∃ a, x = .ok a ∧ f a = b := by
  cases x <;> simp [Except.map]

theorem mapError_eq_ok_iff {x : Except δ α} {f : δ → ε} {a : α} :
    x.mapError f = .ok a ↔ x = .ok a := by
  cases x <;> simp

/-! ## Errors among those of packets -/

@[simp] theorem lift_decode (x : Except DecodeError α) :
    (liftM x : Except PacketError α) = x.mapError .decode := rfl

@[simp] theorem lift_field (x : Except FieldError α) :
    (liftM x : Except PacketError α) = x.mapError .field := rfl

@[simp] theorem lift_operand (x : Except OperandError α) :
    (liftM x : Except PacketError α) = x.mapError .operand := rfl

@[simp] theorem lift_address (x : Except AddressError α) :
    (liftM x : Except PacketError α) = x.mapError .address := rfl

end Radius
