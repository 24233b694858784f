import Radius.Address.IPv4
import Radius.Text.HexDigit

/-!
# IPv6 addresses

`IPv6.ofText?` reads an address literal: groups of one to four hexadecimal digits between colons,
eight of them, or fewer with `::` once for one or more groups of zeros. A dotted quad may stand for
the last two groups, and a zone after `%` may follow. `IPv6.ofValue?` also takes an address as a
number or as sixteen bytes.
-/

namespace Radius

/-- An IPv6 address: its eight groups, and the zone if it has one. -/
structure IPv6 where
  groups : List UInt16
  zone : Option String
  deriving DecidableEq, Repr

namespace IPv6

/-- One group of hexadecimal digits. -/
def group? (part : List Char) : Option UInt16 :=
  if part.isEmpty || 4 < part.length then none
  else (Text.hexNumber? part).map UInt16.ofNat

/-- A group in hexadecimal digits. -/
def groupText (high low : UInt8) : List Char := Nat.toDigits 16 (high.toNat * 256 + low.toNat)

/-- The parts of a literal with a dotted quad at the end written as two groups. -/
def expandQuad? (parts : List (List Char)) : Option (List (List Char)) :=
  match parts.getLast? with
  | none => none
  | some last =>
    if last.contains '.' then
      match IPv4.ofText (String.ofList last) with
      | .ok x => some (parts.dropLast ++ [groupText x.a x.b, groupText x.c x.d])
      | .error _ => none
    else some parts

/-- The groups on one side of `::`; at the end of the literal that side is one empty part. -/
def side? (parts : List (List Char)) : Option (List UInt16) :=
  if parts == [[]] then some [] else parts.mapM group?

/-- The eight groups of the parts of a literal. Of the parts that are neither first nor last, an
empty one stands for `::`. -/
def groups? (parts : List (List Char)) : Option (List UInt16) :=
  match ((parts.drop 1).dropLast).findIdx? List.isEmpty with
  | none => do
    let groups ← parts.mapM group?
    if groups.length = 8 then some groups else none
  | some i => do
    let front ← side? (parts.take (i + 1))
    let back ← side? (parts.drop (i + 2))
    if front.length + back.length < 8 then
      some (front ++ List.replicate (8 - front.length - back.length) 0 ++ back)
    else none

/-- The literal without its zone, and the zone: not empty and without another `%`. -/
def splitZone? (cs : List Char) : Option (List Char × Option String) :=
  match Text.split '%' cs with
  | [address] => some (address, none)
  | [address, zone] => if zone.isEmpty then none else some (address, some (String.ofList zone))
  | _ => none

/-- The address a literal spells. -/
def ofText? (s : String) : Option IPv6 := do
  let (address, zone) ← splitZone? s.toList
  let groups ← (expandQuad? (Text.split ':' address)).bind groups?
  return ⟨groups, zone⟩

/-- The address as a number of eight groups. -/
def ofNat (n : Nat) : IPv6 :=
  ⟨(List.range 8).map fun i => UInt16.ofNat (n >>> (16 * (7 - i))), none⟩

/-- How many addresses there are, `2 ^ 128`. -/
def count : Nat := 1 <<< 128

/-- The address a value gives. -/
def ofValue? (v : Value) : Option IPv6 :=
  match v.toInteger? with
  | some n => if 0 ≤ n && n < (count : Int) then some (ofNat n.toNat) else none
  | none => match v with
    | .bytes b => if b.length = 16 then some (ofNat (Bytes.toNat b)) else none
    | _ =>
      let s := v.plain
      if s.toList.contains '/' then none else ofText? s

end IPv6

end Radius
