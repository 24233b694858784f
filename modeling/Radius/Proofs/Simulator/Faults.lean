import Radius.Control.Validation
import Radius.Proofs.Except
import Radius.Proofs.Number.Conversion
import Radius.Proofs.Value
import Radius.Simulator.Faults

/-!
# Faults that can be drawn

A fault of a rate that is zero never occurs, and nothing is drawn for it
(`Faults.occurs_of_isNumber_zero`). At any rate that is a number it can be drawn whether a fault
occurs (`Faults.occurs_of_isNumeric`). Faults are `Faults.Operable` if both rates are numbers and
the delay is one that a control write can set; asking for them then never fails.
-/

namespace Radius.Faults

/-- A number that equals zero is not above it. -/
theorem isPositive_of_isNumber_zero {rate : Value} (h : rate.isNumber 0 = true) :
    isPositive rate = .ok false := by
  cases rate with
  | real x =>
    rw [Value.isNumber, Binary64.eqInt, Bool.and_eq_true, beq_iff_eq] at h
    have hfinite := bne_iff_ne.1 h.1
    rw [isPositive, Binary64.gtInt, h.2]
    simp [Binary64.isNaN, Binary64.isInfinite, hfinite]
  | flag b => cases b <;> simp_all [isPositive, Value.isNumber, Value.toInteger?]
  | integer n => simp_all [isPositive, Value.isNumber, Value.toInteger?]
  | _ => simp [Value.isNumber, Value.toInteger?] at h

/-- Nothing is drawn at a rate of zero. -/
theorem occurs_of_isNumber_zero {rate : Value} (h : rate.isNumber 0 = true) (chance : Chance) :
    occurs rate chance = .ok (false, chance) := by
  rw [occurs, isPositive_of_isNumber_zero h, ok_bind]
  rfl

theorem isPositive_of_isNumeric {rate : Value} (h : rate.isNumeric = true) :
    ∃ positive, isPositive rate = .ok positive := by
  cases rate <;> simp_all [isPositive, Value.isNumeric, Value.toInteger?]

/-- It can be drawn whether a fault occurs, at any rate that is a number. -/
theorem occurs_of_isNumeric {rate : Value} (h : rate.isNumeric = true) (chance : Chance) :
    ∃ occurred rest, occurs rate chance = .ok (occurred, rest) := by
  obtain ⟨positive, hpositive⟩ := isPositive_of_isNumeric h
  rw [occurs, hpositive, ok_bind]
  cases positive with
  | true => exact ⟨_, _, rfl⟩
  | false => exact ⟨_, _, rfl⟩

/-- Faults whose delay a control write can set and whose rates are numbers. -/
structure Operable (f : Faults) : Prop where
  delay : f.delay.within 0 Control.maxDelay = .ok true
  dropRate : f.dropRate.isNumeric = true
  corruptRate : f.corruptRate.isNumeric = true

theorem delaySeconds_of_toInteger? {f : Faults} {n : Int} (h : f.delay.toInteger? = some n)
    (hsize : n.natAbs < Binary64.implicitBit) : ∃ seconds, f.delaySeconds = .ok seconds := by
  obtain ⟨x, hx⟩ := Binary64.ofInt?_isSome hsize
  rw [delaySeconds]
  cases hvalue : f.delay <;> simp_all [Value.toInteger?]

/-- The delay of such faults can be taken in seconds. -/
theorem Operable.delaySeconds {f : Faults} (h : f.Operable) :
    ∃ seconds, f.delaySeconds = .ok seconds := by
  rcases Value.real_or_isBetween_of_within h.delay with ⟨x, hx⟩ | ⟨n, hn, hlow, hhigh⟩
  · rw [Faults.delaySeconds, hx]
    exact ⟨_, rfl⟩
  · have hlimit : Control.maxDelay < Binary64.implicitBit := by decide
    exact delaySeconds_of_toInteger? hn (by omega)

end Radius.Faults
