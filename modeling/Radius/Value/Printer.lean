import Radius.Number.Shortest
import Radius.Text.Quoted
import Radius.Value

/-!
# The text of a value

`Value.quoted` writes a value so that its kind shows: texts and byte strings between quotation
marks, a whole double with its point. `Value.plain` writes a text as it is and every other value
quoted; it is what messages use to name a value.
-/

namespace Radius.Value

/-- Texts with a comma and a space between them. -/
def commaList (texts : List String) : String := ", ".intercalate texts

mutual

/-- A value so that its kind shows. -/
def quoted : Value → String
  | absent => "None"
  | flag b => if b then "True" else "False"
  | integer n => toString n
  | real x => String.ofList x.toDecimal
  | text s => String.ofList (Text.Quoted.text s.toList)
  | bytes b => String.ofList (Text.Quoted.bytes b)
  | buffer b => "bytearray(" ++ String.ofList (Text.Quoted.bufferBytes b) ++ ")"
  | view _ => "<memory>"
  | list items => "[" ++ commaList (quotedList items) ++ "]"
  | pair a b => "(" ++ commaList [a.quoted, b.quoted] ++ ")"

/-- The items of a list so that their kinds show. -/
def quotedList : List Value → List String
  | [] => []
  | v :: rest => v.quoted :: quotedList rest

end

/-- A value as messages name it. Every value has such a text, since integers with too many digits
for one are not among them. -/
def plain : Value → String
  | text s => s
  | v => v.quoted

end Radius.Value
