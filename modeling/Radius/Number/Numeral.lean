import Radius.Number.Binary64
import Radius.Text.Blank
import Radius.Text.DecimalDigit

/-!
# Reading numerals

`Numeral.real?` reads a decimal numeral in the digits `0` to `9`, with an optional sign, point and
exponent, or one of the words for infinity and for what is not a number, as the nearest double.
`readReal?` and `readInteger?` read a text around it: blanks at the ends, digits of any script,
and underscores between two digits.
-/

namespace Radius

/-- The double nearest `n · 10 ^ e`. Far beyond the range of doubles the power is not formed. -/
def Binary64.ofDecimal (negative : Bool) (n : Nat) (e : Int) : Binary64 :=
  let top := (Nat.toDigits 10 n).length + e
  if n = 0 || top < -330 then withSign negative 0
  else if 310 < top then infinity negative
  else ofRatio negative (n * Nat.pow 10 e.toNat) (Nat.pow 10 (-e).toNat)

namespace Numeral

/-- An optional sign, and whether it is a minus. -/
def sign : List Char → Bool × List Char
  | '-' :: rest => (true, rest)
  | '+' :: rest => (false, rest)
  | cs => (false, cs)

/-- The number that digits spell. -/
def natOf (ds : List Char) : Nat := ds.foldl (fun n c => 10 * n + (c.toNat - '0'.toNat)) 0

/-- The number that digits spell, if there is at least one and nothing else. -/
def natural? (cs : List Char) : Option Nat :=
  if cs.isEmpty || !cs.all Char.isDigit then none else some (natOf cs)

/-- The rest of a numeral after its digits: nothing, or an exponent. -/
def exponent? : List Char → Option Int
  | [] => some 0
  | c :: rest =>
    if c == 'e' || c == 'E' then
      let (negative, ds) := sign rest
      (natural? ds).map fun n => if negative then -n else n
    else none

/-- The point of a numeral and the digits after it. -/
def fraction : List Char → List Char × List Char
  | '.' :: rest => (rest.takeWhile Char.isDigit, rest.dropWhile Char.isDigit)
  | cs => ([], cs)

/-- The double nearest an unsigned numeral. -/
def magnitude? (negative : Bool) (cs : List Char) : Option Binary64 :=
  let whole := cs.takeWhile Char.isDigit
  let (part, rest) := fraction (cs.dropWhile Char.isDigit)
  if whole.isEmpty && part.isEmpty then none
  else (exponent? rest).map fun e =>
    Binary64.ofDecimal negative (natOf (whole ++ part)) (e - part.length)

/-- The double a numeral stands for. The words are read in any case. -/
def real? (cs : List Char) : Option Binary64 :=
  let (negative, body) := sign cs
  let word := String.ofList (body.map Char.toLower)
  if word == "inf" || word == "infinity" then some (.infinity negative)
  else if word == "nan" then some .nan
  else magnitude? negative body

/-- A text without its underscores, each of which stands between two digits. The flag says whether
a digit has just been read. -/
def withoutUnderscores? (afterDigit : Bool) : List Char → Option (List Char)
  | [] => some []
  | '_' :: d :: rest =>
    if afterDigit && d.isDigit then (withoutUnderscores? true rest).map (d :: ·) else none
  | c :: rest =>
    if c == '_' then none else (withoutUnderscores? c.isDigit rest).map (c :: ·)

/-- The characters of a numeral in a text: no blanks around, ASCII digits, no underscores. -/
def body? (text : String) : Option (List Char) :=
  withoutUnderscores? false (Text.toAsciiDigits (Text.trim Text.isBlank text.toList))

/-- The double a text stands for. -/
def readReal? (text : String) : Option Binary64 := (body? text).bind real?

/-- How many digits stand at the front of an integer in a text, after blanks and a sign. Misplaced
underscores among them make it none. -/
def leadingDigits (text : String) : Nat :=
  let (_, cs) := sign (Text.toAsciiDigits (Text.trim Text.isBlank text.toList))
  let run := cs.takeWhile fun c => c.isDigit || c == '_'
  ((withoutUnderscores? false run).getD []).length

/-- The most digits an integer is read from. -/
def maxDigits : Nat := 4300

/-- The integer a text stands for: digits with an optional sign. -/
def readInteger? (text : String) : Option Int := do
  let (negative, ds) := sign (← body? text)
  (natural? ds).map fun n => if negative then -n else n

end Numeral

end Radius
