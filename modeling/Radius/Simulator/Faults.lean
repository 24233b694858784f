import Radius.Value.Operand

/-!
# Faults

A simulator can delay its replies, drop requests and corrupt replies. Whether a request is dropped
or a reply corrupted is drawn: a random number below the rate decides for the fault. Nothing is
drawn at a rate that is not above zero. The random numbers come from outside, and `Chance` counts
how many are taken; when they run out, the number is one half.

The fields hold what a caller put into them, so asking for a fault can fail on the kind of a field.
-/

namespace Radius

/-- A supply of random numbers from zero to below one. -/
structure Chance where
  numbers : List Binary64
  taken : Nat := 0

namespace Chance

/-- The next random number. -/
def next (c : Chance) : Binary64 × Chance :=
  match c.numbers with
  | [] => (.half, ⟨[], c.taken + 1⟩)
  | x :: rest => (x, ⟨rest, c.taken + 1⟩)

end Chance

/-- The faults a simulator is set to, none unless fields are given. -/
structure Faults where
  /-- Milliseconds before a reply is sent. -/
  delay : Value := .integer 0
  dropRate : Value := .real .zero
  corruptRate : Value := .real .zero
  deriving Inhabited

namespace Faults

/-- Whether a rate is above zero. -/
def isPositive (rate : Value) : Except OperandError Bool :=
  match rate with
  | .real x => .ok (x.gtInt 0)
  | v => match v.toInteger? with
    | some n => .ok (decide (0 < n))
    | none => .error (.noOrder ">" v.kind .integer)

/-- Whether a random number is below a rate. -/
def isBelow (x : Binary64) (rate : Value) : Bool :=
  match rate with
  | .real y => x.lt y
  | v => v.toInteger?.any x.ltInt

/-- Whether a fault of a rate occurs. -/
def occurs (rate : Value) (chance : Chance) : Except OperandError (Bool × Chance) := do
  if ← isPositive rate then
    let (x, chance) := chance.next
    return (isBelow x rate, chance)
  else return (false, chance)

/-- Whether a request is dropped. -/
def dropped (f : Faults) (chance : Chance) : Except OperandError (Bool × Chance) :=
  occurs f.dropRate chance

/-- Whether a reply is corrupted. -/
def corrupted (f : Faults) (chance : Chance) : Except OperandError (Bool × Chance) :=
  occurs f.corruptRate chance

/-- The delay in seconds. -/
def delaySeconds (f : Faults) : Except OperandError Binary64 :=
  match f.delay with
  | .real x => .ok (x.divNat 1000)
  | v => match v.toInteger? with
    | none => .error (.noOperator "/" v.kind .real)
    | some n => match Binary64.ofInt? n with
      | none => .error .integerTooLarge
      | some x => .ok (x.divNat 1000)

end Faults

end Radius
