import Radius.Bytes
import Radius.Number.Binary64

/-!
# Values of packet fields

A caller may put any value into a field of a packet or of the simulator; whether it fits is
decided where the field is used. `Value` holds what a caller can give: nothing, truth values,
integers, doubles, texts, byte strings, lists and pairs. Byte strings come in three kinds that hold
the same bytes: plain ones, buffers that can grow, and views of bytes held elsewhere.

`Value.same` is equality of values as what they stand for: numbers of all kinds by their exact
value, byte strings of all kinds by their bytes, and values of other kinds only with their own.
-/

namespace Radius

/-- What a caller can give. An integer is meant to have a decimal text, so it has at most as many
digits as one is read from (`Numeral.maxDigits`); larger ones are not among the values. -/
inductive Value where
  | absent
  | flag (b : Bool)
  | integer (n : Int)
  | real (x : Binary64)
  | text (s : String)
  | bytes (b : Bytes)
  | buffer (b : Bytes)
  | view (b : Bytes)
  | list (items : List Value)
  | pair (first second : Value)
  deriving Inhabited

/-- The kind of a value, as messages name it. -/
inductive Kind where
  | absent | flag | integer | real | text | bytes | buffer | view | list | pair
  deriving DecidableEq, Repr

/-- The name of a kind in messages. -/
def Kind.name : Kind → String
  | absent => "NoneType"
  | flag => "bool"
  | integer => "int"
  | real => "float"
  | text => "str"
  | bytes => "bytes"
  | buffer => "bytearray"
  | view => "memoryview"
  | list => "list"
  | pair => "tuple"

namespace Value

/-- The kind of a value. -/
def kind : Value → Kind
  | absent => .absent
  | flag _ => .flag
  | integer _ => .integer
  | real _ => .real
  | text _ => .text
  | bytes _ => .bytes
  | buffer _ => .buffer
  | view _ => .view
  | list _ => .list
  | pair _ _ => .pair

/-- The integer a value is. A truth value is one or zero; a double is no integer, whole or not. -/
def toInteger? : Value → Option Int
  | flag b => some (if b then 1 else 0)
  | integer n => some n
  | _ => none

/-- The bytes of a byte string of any kind. -/
def toBytes? : Value → Option Bytes
  | bytes b | buffer b | view b => some b
  | _ => none

/-! ## Equality -/

/-- Whether a value is the number `n`. -/
def isNumber (n : Int) : Value → Bool
  | real x => x.eqInt n
  | v => v.toInteger? == some n

/-- Equality of two numbers, if both are. -/
def sameNumber : Value → Value → Bool
  | real x, real y => x.eq y
  | real x, v => v.toInteger?.any x.eqInt
  | v, w => v.toInteger?.any w.isNumber

mutual

/-- Whether two values stand for the same. -/
def same : Value → Value → Bool
  | absent, absent => true
  | text s, text t => s == t
  | list xs, list ys => sameList xs ys
  | pair a b, pair c d => a.same c && b.same d
  | v, w => match v.toBytes?, w.toBytes? with
    | some b, some c => b == c
    | none, none => sameNumber v w
    | _, _ => false

/-- Whether two lists stand for the same, item by item. -/
def sameList : List Value → List Value → Bool
  | [], [] => true
  | x :: xs, y :: ys => x.same y && sameList xs ys
  | _, _ => false

end

end Value

end Radius
