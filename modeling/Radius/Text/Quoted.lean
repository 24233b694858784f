import Radius.Bytes
import Radius.Text.Printable

/-!
# Quoted text

`Quoted.text` writes a text between quotation marks so that every character shows: a backslash and
the mark used are escaped, the usual control characters get their letter, and every other
character that is not printable its code point in hexadecimal. The mark is `'`, unless the text
holds `'` and no `"`. `Quoted.bytes` does the same to a byte string, where every byte outside
printable ASCII is written in hexadecimal, and `Quoted.bufferBytes` to the bytes of a buffer.
-/

namespace Radius.Text.Quoted

/-- The mark a text stands between as a rule. -/
def apostrophe : Char := '\x27'

/-- The mark for a text that holds an apostrophe and none of these. -/
def quotationMark : Char := '\x22'

/-- The mark that needs no escape, if there is one. -/
def markFor (cs : List Char) : Char :=
  if cs.contains apostrophe && !cs.contains quotationMark then quotationMark else apostrophe

/-- `n` in `width` hexadecimal digits. -/
def hexDigits (width n : Nat) : List Char :=
  let ds := Nat.toDigits 16 n
  List.replicate (width - ds.length) '0' ++ ds

/-- The escapes that text and byte strings share. -/
def commonEscape? (mark c : Char) : Option (List Char) :=
  if c == mark || c == '\\' then some ['\\', c]
  else if c == '\n' then some ['\\', 'n']
  else if c == '\r' then some ['\\', 'r']
  else if c == '\t' then some ['\\', 't']
  else none

/-- One character of a quoted text. -/
def character (mark c : Char) : List Char :=
  match commonEscape? mark c with
  | some escape => escape
  | none =>
    if Text.isPrintable c then [c]
    else if c.toNat < 0x100 then '\\' :: 'x' :: hexDigits 2 c.toNat
    else if c.toNat < 0x10000 then '\\' :: 'u' :: hexDigits 4 c.toNat
    else '\\' :: 'U' :: hexDigits 8 c.toNat

/-- A text between quotation marks. -/
def text (cs : List Char) : List Char :=
  let mark := markFor cs
  mark :: cs.flatMap (character mark) ++ [mark]

/-- One byte of a quoted byte string. -/
def byte (mark : Char) (b : UInt8) : List Char :=
  let c := Char.ofNat b.toNat
  match commonEscape? mark c with
  | some escape => escape
  | none =>
    if 0x20 ≤ b && b < 0x7f then [c] else '\\' :: 'x' :: hexDigits 2 b.toNat

/-- A byte string between two marks, after the letter that tells it from a text. The character
`escaped` is written with a backslash. -/
def delimited (mark escaped : Char) (b : Bytes) : List Char :=
  'b' :: mark :: b.flatMap (byte escaped) ++ [mark]

/-- The mark for a byte string. -/
def markForBytes (b : Bytes) : Char := markFor (b.map fun x => Char.ofNat x.toNat)

/-- A byte string between quotation marks. -/
def bytes (b : Bytes) : List Char := delimited (markForBytes b) (markForBytes b) b

/-- The byte string of a buffer, where an apostrophe is escaped between marks of either kind. -/
def bufferBytes (b : Bytes) : List Char := delimited (markForBytes b) apostrophe b

end Radius.Text.Quoted
