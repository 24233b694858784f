/-!
# Double precision numbers

A `Binary64` is the 64-bit word of an IEEE 754 double. Every finite double is a whole number of
units of `2 ^ -1074` (`units`), so the order of doubles, and of doubles with integers, is that of
integers (`lt`, `le`, `ltInt`, `gtInt`), and nothing here computes with machine floats.

`ofRatio` is the double nearest a quotient of natural numbers, the one with the even significand
of two equally near; from it come conversion of integers (`ofInt?`) and division by a positive
integer (`divNat`).
-/

namespace Radius

/-- A double, as its 64-bit word. -/
structure Binary64 where
  bits : UInt64
  deriving DecidableEq, Inhabited

namespace Binary64

/-- The sign bit. -/
def isNegative (x : Binary64) : Bool := x.bits.toNat >>> 63 == 1

/-- The exponent field. -/
def exponentField (x : Binary64) : Nat := (x.bits.toNat >>> 52) % 2048

/-- The leading bit of the significand of a normal double, `2 ^ 52`. It is above the fraction field
and not stored. -/
def implicitBit : Nat := 1 <<< 52

/-- The fraction field. -/
def fraction (x : Binary64) : Nat := x.bits.toNat % implicitBit

/-- Whether a double is finite: its exponent field is not full. -/
def isFinite (x : Binary64) : Bool := x.exponentField != 2047

/-- Whether a double is not a number. -/
def isNaN (x : Binary64) : Bool := x.exponentField == 2047 && x.fraction != 0

/-- Whether a double is one of the two infinities. -/
def isInfinite (x : Binary64) : Bool := x.exponentField == 2047 && x.fraction == 0

/-- The significand of a finite double. -/
def significand (x : Binary64) : Nat :=
  if x.exponentField = 0 then x.fraction else implicitBit + x.fraction

/-- The exponent of a finite double over units of `2 ^ -1074`. -/
def scale (x : Binary64) : Nat := x.exponentField - 1

/-- The absolute value of a finite double in units of `2 ^ -1074`. -/
def magnitude (x : Binary64) : Nat := x.significand <<< x.scale

/-- How many units of `2 ^ -1074` one is. -/
def unitsPerOne : Nat := 1 <<< 1074

/-- A finite double in units of `2 ^ -1074`. -/
def units (x : Binary64) : Int := if x.isNegative then -x.magnitude else x.magnitude

/-- The exact value of a finite double. -/
def toRat (x : Binary64) : Rat := mkRat x.units unitsPerOne

/-! ## Special values -/

/-- The number 0. -/
def zero : Binary64 := ⟨0⟩

/-- The number 1. -/
def one : Binary64 := ⟨0x3ff0000000000000⟩

/-- The number 1/2. -/
def half : Binary64 := ⟨0x3fe0000000000000⟩

/-- A double that is not a number. -/
def nan : Binary64 := ⟨0x7ff8000000000000⟩

/-- The double with the given sign and the other 63 bits. -/
def withSign (negative : Bool) (rest : Nat) : Binary64 :=
  ⟨UInt64.ofNat (if negative then (1 <<< 63) + rest else rest)⟩

/-- The bits of an infinity below its sign: a full exponent field. -/
def infinityBits : Nat := 2047 * implicitBit

/-- The infinity of a sign. -/
def infinity (negative : Bool) : Binary64 := withSign negative infinityBits

/-! ## Order -/

/-- `x < y`, never so if one of them is not a number. -/
def lt (x y : Binary64) : Bool :=
  if x.isNaN || y.isNaN then false
  else if x.isInfinite then x.isNegative && !(y.isInfinite && y.isNegative)
  else if y.isInfinite then !y.isNegative
  else decide (x.units < y.units)

/-- `x = y` as numbers: the two zeros are equal, and what is not a number equals nothing. -/
def eq (x y : Binary64) : Bool :=
  if x.isNaN || y.isNaN then false
  else if x.isInfinite || y.isInfinite then x.bits == y.bits
  else x.units == y.units

/-- `x ≤ y`, never so if one of them is not a number. -/
def le (x y : Binary64) : Bool := x.lt y || x.eq y

/-- `x < n` -/
def ltInt (x : Binary64) (n : Int) : Bool :=
  if x.isNaN then false
  else if x.isInfinite then x.isNegative
  else decide (x.units < n * unitsPerOne)

/-- `n < x` -/
def gtInt (x : Binary64) (n : Int) : Bool :=
  if x.isNaN then false
  else if x.isInfinite then !x.isNegative
  else decide (n * unitsPerOne < x.units)

/-- `x = n` -/
def eqInt (x : Binary64) (n : Int) : Bool := x.isFinite && x.units == n * unitsPerOne

/-- The integer a double is, if it is one. -/
def toInt? (x : Binary64) : Option Int :=
  if x.isFinite && x.units % unitsPerOne == 0 then some (x.units / unitsPerOne) else none

/-! ## Rounding -/

/-- The whole number nearest `num / den`, the even one of two equally near. -/
def roundHalfEven (num den : Nat) : Nat :=
  let q := num / den
  let r := num % den
  if 2 * r < den then q
  else if den < 2 * r then q + 1
  else q + q % 2

/-- The double nearest `num / den` in absolute value, with the given sign. The exponent over units
of `2 ^ -1074` is the least one that leaves 53 binary digits before the point, and a significand
that rounds up to `2 ^ 53` carries into it. -/
def ofRatio (negative : Bool) (num den : Nat) : Binary64 :=
  let scaled := num * unitsPerOne
  let shift := (scaled / den).log2 - 52
  let bits := shift * implicitBit + roundHalfEven scaled (den <<< shift)
  withSign negative (min bits infinityBits)

/-- The double nearest an integer, unless it lies beyond the finite doubles. -/
def ofInt? (n : Int) : Option Binary64 :=
  let x := ofRatio (n < 0) n.natAbs 1
  if x.isFinite then some x else none

/-- The double nearest `x / n`, for a positive `n`. -/
def divNat (x : Binary64) (n : Nat) : Binary64 :=
  if x.isFinite then ofRatio x.isNegative x.magnitude (n * unitsPerOne) else x

end Binary64

end Radius
