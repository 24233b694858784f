import Radius.Number.Numeral
import Radius.Text.Split
import Radius.Value.Printer

/-!
# IPv4 addresses

`IPv4.ofText` reads a dotted quad: four parts of one to three digits without leading zeros, each at
most 255, so that every address has exactly one text (`IPv4.text`). `IPv4.ofValue` also takes the
address as a number or as four bytes; any other value is read by its text. An `AddressError` says
why there is no address.
-/

namespace Radius

/-- An IPv4 address, its four bytes in order. -/
structure IPv4 where
  a : UInt8
  b : UInt8
  c : UInt8
  d : UInt8
  deriving DecidableEq, Repr

/-- Why a part of a dotted quad is no byte. -/
inductive OctetError where
  | empty
  | notDigits (part : String)
  | tooLong (part : String)
  | leadingZero (part : String)
  | tooLarge (n : Nat)
  deriving DecidableEq, Repr

/-- Why a value is no IPv4 address. -/
inductive AddressError where
  | slash (value : Value)
  | empty
  | notFourParts (text : String)
  | octet (why : OctetError) (text : String)
  | negative (n : Int)
  | tooLarge (n : Int)
  | wrongSize (bytes : Bytes)

/-- A text between quotation marks. -/
def quoteText (s : String) : String := (Value.text s).quoted

/-- What is said of a part that is no octet. -/
def OctetError.message : OctetError → String
  | empty => "Empty octet not permitted"
  | notDigits part => "Only decimal digits permitted in " ++ quoteText part
  | tooLong part => "At most 3 characters permitted in " ++ quoteText part
  | leadingZero part => "Leading zeros are not permitted in " ++ quoteText part
  | tooLarge n => "Octet " ++ toString n ++ " (> 255) not permitted"

/-- What is said of a value that is no IPv4 address. -/
def AddressError.message : AddressError → String
  | slash v => "Unexpected '/' in " ++ v.quoted
  | empty => "Address cannot be empty"
  | notFourParts text => "Expected 4 octets in " ++ quoteText text
  | octet why text => why.message ++ " in " ++ quoteText text
  | negative n => toString n ++ " (< 0) is not permitted as an IPv4 address"
  | tooLarge n => toString n ++ " (>= 2**32) is not permitted as an IPv4 address"
  | wrongSize b => (Value.bytes b).quoted ++ " (len " ++ toString b.length ++
      " != 4) is not permitted as an IPv4 address"

namespace IPv4

/-- The four bytes of an address. -/
def toBytes (x : IPv4) : Bytes := [x.a, x.b, x.c, x.d]

/-- The address of four bytes. -/
def ofBytes? : Bytes → Option IPv4
  | [a, b, c, d] => some ⟨a, b, c, d⟩
  | _ => none

@[simp] theorem ofBytes?_toBytes (x : IPv4) : ofBytes? x.toBytes = some x := rfl

/-- The address as a number of four bytes. -/
def ofNat (n : Nat) : IPv4 :=
  ⟨UInt8.ofNat (n / 16777216), UInt8.ofNat (n / 65536), UInt8.ofNat (n / 256), UInt8.ofNat n⟩

/-- A byte in decimal digits. -/
def octetText (b : UInt8) : List Char := Nat.toDigits 10 b.toNat

/-- The dotted quad of an address. -/
def text (x : IPv4) : String :=
  String.ofList (Text.join '.' [octetText x.a, octetText x.b, octetText x.c, octetText x.d])

/-- One part of a dotted quad. -/
def octet (part : List Char) : Except OctetError UInt8 :=
  let shown := String.ofList part
  if part.isEmpty then .error .empty
  else if !part.all Char.isDigit then .error (.notDigits shown)
  else if 3 < part.length then .error (.tooLong shown)
  else if part != ['0'] && part.head? == some '0' then .error (.leadingZero shown)
  else
    let n := Numeral.natOf part
    if 255 < n then .error (.tooLarge n) else .ok (UInt8.ofNat n)

/-- The address a dotted quad spells. -/
def ofText (s : String) : Except AddressError IPv4 :=
  if s.isEmpty then .error .empty
  else match Text.split '.' s.toList with
    | [p, q, r, t] =>
      let result : Except OctetError IPv4 := do
        return ⟨← octet p, ← octet q, ← octet r, ← octet t⟩
      result.mapError (.octet · s)
    | _ => .error (.notFourParts s)

/-- How many addresses there are, `2 ^ 32`. -/
def count : Nat := 1 <<< 32

/-- The address a value gives. -/
def ofValue (v : Value) : Except AddressError IPv4 :=
  match v.toInteger? with
  | some n =>
    if n < 0 then .error (.negative n)
    else if (count : Int) ≤ n then .error (.tooLarge n)
    else .ok (ofNat n.toNat)
  | none => match v with
    | .bytes b => match ofBytes? b with
      | some x => .ok x
      | none => .error (.wrongSize b)
    | _ =>
      let s := v.plain
      if s.toList.contains '/' then .error (.slash v) else ofText s

end IPv4

end Radius
