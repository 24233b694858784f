import Radius.Number.Machine
import Radius.Text.Utf8
import Radius.Value

/-!
# Operations on values

A value used where its kind does not fit is refused with an `OperandError`, one constructor for
each cause. `toByteString` makes a byte string of a value: a number is taken as a count of zero
bytes and a list as the bytes themselves. `toSecret` also takes a text, in UTF-8. The other
operations are length, concatenation, comparison with a range, iteration and taking a pair apart.
-/

namespace Radius

/-- Why an operation refuses a value. -/
inductive OperandError where
  /-- No byte string can be made of a value of this kind. -/
  | notByteString (kind : Kind)
  /-- A text has bytes only in some encoding. -/
  | textWithoutEncoding
  | negativeCount
  | countTooLarge
  | byteOutOfRange
  | notInteger (kind : Kind)
  | integerTooLarge
  | noLength (kind : Kind)
  | noOrder (operator : String) (left right : Kind)
  /-- Nothing of kind `right` can be put after a value of kind `left`. -/
  | noConcatenation (left right : Kind)
  /-- A byte string of kind `left` takes no value of kind `right` at its end. -/
  | noByteConcatenation (left right : Kind)
  | noOperator (operator : String) (left right : Kind)
  | noMember (kind : Kind) (member : String)
  | notIterable (kind : Kind)
  | notDivisible (kind : Kind)
  | tooFewItems (count : Nat)
  | tooManyItems
  | notBuffer (kind : Kind)
  | textNotHashable
  | noBufferInterface
  | noKey (kind : Kind)
  deriving DecidableEq, Repr

namespace OperandError

/-- The name of a kind between quotation marks. -/
def quotedKind (k : Kind) : String := "'" ++ k.name ++ "'"

/-- What is said of an operation that refuses a value. -/
def message : OperandError → String
  | notByteString k => "cannot convert " ++ quotedKind k ++ " object to bytes"
  | textWithoutEncoding => "string argument without an encoding"
  | negativeCount => "negative count"
  | countTooLarge => "cannot fit 'int' into an index-sized integer"
  | byteOutOfRange => "bytes must be in range(0, 256)"
  | notInteger k => quotedKind k ++ " object cannot be interpreted as an integer"
  | integerTooLarge => "int too large to convert to float"
  | noLength k => "object of type " ++ quotedKind k ++ " has no len()"
  | noOrder op l r => "'" ++ op ++ "' not supported between instances of " ++ quotedKind l ++
      " and " ++ quotedKind r
  | noConcatenation l r => "can only concatenate " ++ l.name ++ " (not \"" ++ r.name ++ "\") to " ++
      l.name
  | noByteConcatenation l r => "can't concat " ++ r.name ++ " to " ++ l.name
  | noOperator op l r => "unsupported operand type(s) for " ++ op ++ ": " ++ quotedKind l ++
      " and " ++ quotedKind r
  | noMember k m => quotedKind k ++ " object has no attribute '" ++ m ++ "'"
  | notIterable k => quotedKind k ++ " object is not iterable"
  | notDivisible k => "cannot unpack non-iterable " ++ k.name ++ " object"
  | tooFewItems n => "not enough values to unpack (expected 2, got " ++ toString n ++ ")"
  | tooManyItems => "too many values to unpack (expected 2)"
  | notBuffer k => "a bytes-like object is required, not " ++ quotedKind k
  | textNotHashable => "Strings must be encoded before hashing"
  | noBufferInterface => "object supporting the buffer API required"
  | noKey k => "unhashable type: " ++ quotedKind k

end OperandError

namespace Value

/-! ## Byte strings from values -/

/-- A list item as a byte. -/
def toByte (v : Value) : Except OperandError UInt8 :=
  match v.toInteger? with
  | none => .error (.notInteger v.kind)
  | some n => if 0 ≤ n && n < 256 then .ok (UInt8.ofNat n.toNat) else .error .byteOutOfRange

/-- The byte string of a value: its bytes, as many zeros as it counts, or the bytes it lists. -/
def toByteString : Value → Except OperandError Bytes
  | bytes b | buffer b | view b => .ok b
  | list items => items.mapM toByte
  | pair a b => [a, b].mapM toByte
  | text _ => .error .textWithoutEncoding
  | v => match v.toInteger? with
    | none => .error (.notByteString v.kind)
    | some n =>
      if !Machine.isSigned n then .error .countTooLarge
      else if n < 0 then .error .negativeCount
      else .ok (Bytes.zeros n.toNat)

/-- The bytes of a secret or a password: of a text its UTF-8. -/
def toSecret : Value → Except OperandError Bytes
  | text s => .ok (Text.Utf8.encode s.toList)
  | v => v.toByteString

/-! ## Length and order -/

/-- The number of items of a value that has items. A text counts its characters. -/
def length : Value → Except OperandError Nat
  | text s => .ok s.length
  | bytes b | buffer b | view b => .ok b.length
  | list items => .ok items.length
  | pair _ _ => .ok 2
  | v => .error (.noLength v.kind)

/-- Whether a number lies from `low` to `high`. -/
def within (low high : Int) (v : Value) : Except OperandError Bool :=
  match v with
  | real x => .ok (!x.isNaN && !x.ltInt low && !x.gtInt high)
  | v => match v.toInteger? with
    | some n => .ok (decide (low ≤ n && n ≤ high))
    | none => .error (.noOrder "<=" .integer v.kind)

/-- Whether a value counts as filled: no zero, nothing empty. -/
def isFilled : Value → Bool
  | absent => false
  | flag b => b
  | integer n => n != 0
  | real x => !x.eqInt 0
  | text s => !s.isEmpty
  | bytes b | buffer b | view b => !b.isEmpty
  | list items => !items.isEmpty
  | pair _ _ => true

/-! ## Concatenation -/

/-- Whether a value is a number of some kind. -/
def isNumeric : Value → Bool
  | real _ => true
  | v => v.toInteger?.isSome

/-- The two values one after the other. A byte string takes any kind of byte string at its end and
keeps its own kind. Two numbers have a sum instead, and two pairs are four items; neither has
bytes. -/
def append (v w : Value) : Except OperandError Value :=
  match v with
  | bytes a => match w.toBytes? with
    | some b => .ok (bytes (a ++ b))
    | none => .error (.noByteConcatenation .bytes w.kind)
  | buffer a => match w.toBytes? with
    | some b => .ok (buffer (a ++ b))
    | none => .error (.noByteConcatenation .buffer w.kind)
  | text s => match w with
    | text t => .ok (text (s ++ t))
    | _ => .error (.noConcatenation .text w.kind)
  | list xs => match w with
    | list ys => .ok (list (xs ++ ys))
    | _ => .error (.noConcatenation .list w.kind)
  | pair _ _ => match w with
    | pair _ _ => .error .noBufferInterface
    | _ => .error (.noConcatenation .pair w.kind)
  | _ => .error (if v.isNumeric && w.isNumeric then .noBufferInterface
      else .noOperator "+" v.kind w.kind)

/-- The bytes of a value that is to be hashed. -/
def toHashInput (v : Value) : Except OperandError Bytes :=
  match v.toBytes? with
  | some b => .ok b
  | none => .error (if v.kind = .text then .textNotHashable else .noBufferInterface)

/-! ## Iteration -/

/-- The items of a value that has items. -/
def items : Value → Except OperandError (List Value)
  | list xs => .ok xs
  | pair a b => .ok [a, b]
  | text s => .ok (s.toList.map fun c => text (String.ofList [c]))
  | bytes b | buffer b | view b => .ok (b.map fun x => integer x.toNat)
  | v => .error (.notIterable v.kind)

/-- The two items of a value that has two. -/
def unpair (v : Value) : Except OperandError (Value × Value) :=
  match v.items with
  | .error _ => .error (.notDivisible v.kind)
  | .ok [a, b] => .ok (a, b)
  | .ok xs => .error (if xs.length < 2 then .tooFewItems xs.length else .tooManyItems)

end Value

end Radius
