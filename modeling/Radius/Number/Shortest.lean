import Radius.Number.Binary64

/-!
# The shortest decimal of a double

`Shortest.digits` gives the fewest decimal digits that read back as a positive finite double, and
the exponent of the first of them. For one digit, two digits and so on up to seventeen, the two
neighbours of the value on that decimal grid are tested against the interval of reals that round
to the double (`Interval`); the first grid with a hit wins, and of two hits the nearer one.

`Binary64.toDecimal` lays the digits out: plainly from `10 ^ -4` up to below `10 ^ 16`, with at
least one digit on both sides of the point, and else with a signed exponent of at least two
digits.
-/

namespace Radius

namespace Shortest

/-- The reals that round to a double, as `low / den` to `high / den` around `value / den`. Its ends
round to the double too when its significand is even. -/
structure Interval where
  low : Nat
  value : Nat
  high : Nat
  den : Nat
  closed : Bool

/-- The interval of a positive finite double, in quarters of a unit of `2 ^ -1074`. The gap below a
power of two is half the gap above it. -/
def Interval.ofBinary64 (x : Binary64) : Interval :=
  let unit := 1 <<< x.scale
  let value := 4 * x.magnitude
  let isPowerOfTwo := x.significand = Binary64.implicitBit && 1 < x.exponentField
  let below := if isPowerOfTwo then unit else 2 * unit
  ⟨value - below, value, value + 2 * unit, 4 * Binary64.unitsPerOne, x.significand % 2 == 0⟩

/-- Whether `n / d` lies in the interval. -/
def Interval.contains (i : Interval) (n d : Nat) : Bool :=
  let x := n * i.den
  if i.closed then i.low * d ≤ x && x ≤ i.high * d else i.low * d < x && x < i.high * d

/-- The number of decimal digits of `n`. -/
def width (n : Nat) : Nat := (Nat.toDigits 10 n).length

/-- The exponent of the first decimal digit of the interval's value; the shift keeps even the
smallest double above one. -/
def Interval.exponent (i : Interval) : Int := (width (i.value * Nat.pow 10 330 / i.den) : Int) - 331

/-- A hit on the grid of `n` digits: the neighbour of the value, as a number of grid steps, that
lies in the interval, the nearer one if both do. -/
def Interval.hit? (i : Interval) (n : Nat) : Option Nat :=
  let e := i.exponent - (n - 1 : Int)
  -- one grid step is `up / down`
  let up := Nat.pow 10 e.toNat
  let down := Nat.pow 10 (-e).toNat
  let below := i.value * down / (i.den * up)
  let above := below + 1
  let belowHits := i.contains (below * up) down
  let aboveHits := i.contains (above * up) down
  if belowHits && aboveHits then
    let toBelow := i.value * down - below * up * i.den
    let toAbove := above * up * i.den - i.value * down
    some (if toAbove < toBelow || (toAbove == toBelow && below % 2 == 1) then above else below)
  else if belowHits then some below
  else if aboveHits then some above
  else none

/-- The digits without trailing zeros, at least one of them. -/
def trim (ds : List Char) : List Char :=
  match (ds.reverse.dropWhile (· == '0')).reverse with
  | [] => ['0']
  | kept => kept

/-- The fewest digits that read back as the positive finite double `x`, and the power of ten of the
first one. -/
def digits (x : Binary64) : List Char × Int :=
  let i := Interval.ofBinary64 x
  match (List.range 17).findSome? fun k => (i.hit? (k + 1)).map fun h => (k + 1, h) with
  | some (n, h) =>
    let ds := Nat.toDigits 10 h
    -- the upper neighbour may have one digit more
    (trim ds, i.exponent + (ds.length - n : Int))
  | none => (['0'], 0)

end Shortest

namespace Binary64

/-- A decimal exponent: its sign and at least two digits. -/
def exponentText (e : Int) : List Char :=
  let ds := Nat.toDigits 10 e.natAbs
  (if e < 0 then '-' else '+') :: (if ds.length < 2 then '0' :: ds else ds)

/-- Digits laid out as a decimal whose first digit stands for `10 ^ e`. -/
def layOut (ds : List Char) (e : Int) : List Char :=
  if e < -4 || 16 ≤ e then
    match ds with
    | [d] => d :: 'e' :: exponentText e
    | d :: rest => d :: '.' :: rest ++ 'e' :: exponentText e
    | [] => []
  else if e < 0 then
    '0' :: '.' :: List.replicate (-e - 1).toNat '0' ++ ds
  else
    let whole := e.toNat + 1
    let fraction := ds.drop whole
    ds.take whole ++ List.replicate (whole - ds.length) '0' ++
      '.' :: (if fraction.isEmpty then ['0'] else fraction)

/-- The text of a double: the shortest decimal that reads back. -/
def toDecimal (x : Binary64) : List Char :=
  if x.isNaN then ['n', 'a', 'n']
  else
    let body :=
      if x.isInfinite then ['i', 'n', 'f']
      else if x.magnitude = 0 then ['0', '.', '0']
      else
        let (ds, e) := Shortest.digits x
        layOut ds e
    if x.isNegative then '-' :: body else body

end Binary64

end Radius
