import Radius.Json
import Radius.Number.Numeral
import Radius.Text.HexDigit

/-!
# Reading JSON

`Json.read` reads a text as one JSON value. Beyond the standard it knows the words `NaN`,
`Infinity` and `-Infinity`. A text that is no JSON is refused with the offset, in characters, of
the place where reading stopped: where a value, a name, a delimiter or the end of the text should
be, at a control character in a string, at the backslash of an unknown escape, at the `u` of an
escape without four digits, or at the opening quotation mark of a string that does not end. An
integer of too many digits stops the reading as well.

A reader takes the rest of the text and gives a result with what remains; it reports the place of
an error as the number of characters from there to the end of the text.
-/

namespace Radius.Json

/-- Why a text is not read. -/
inductive ReadError where
  /-- It is no JSON, as is seen at this place. -/
  | malformed (place : Nat)
  /-- An integer in it has more digits than an integer is read from. -/
  | tooManyDigits
  deriving DecidableEq, Repr

namespace Reader

/-- The characters that may stand between two tokens. -/
def isSpace (c : Char) : Bool := c == ' ' || c == '\t' || c == '\n' || c == '\r'

/-- A text without the space at its front. -/
def skipSpace (cs : List Char) : List Char := cs.dropWhile isSpace

/-! ## Strings -/

/-- The number that four hexadecimal digits spell, before at least one more character. -/
def hex4? : List Char → Option (Nat × List Char)
  | a :: b :: c :: d :: e :: rest => (Text.hexNumber? [a, b, c, d]).map fun n => (n, e :: rest)
  | _ => none

/-- The escapes of one letter. -/
def simpleEscape? (c : Char) : Option Char :=
  if c == '\x22' || c == '\\' || c == '/' then some c
  else if c == 'b' then some '\x08'
  else if c == 'f' then some '\x0c'
  else if c == 'n' then some '\n'
  else if c == 'r' then some '\r'
  else if c == 't' then some '\t'
  else none

/-- The second half of a surrogate pair in an escape of its own. No pair, or no text that long, is
no error; an escape without four digits is. -/
def lowSurrogate (high : Nat) : List Char → Except ReadError (Option Char × List Char)
  | '\\' :: 'u' :: rest =>
    if rest.length < 5 then .ok (none, '\\' :: 'u' :: rest)
    else match hex4? rest with
      | none => .error (.malformed (rest.length + 1))
      | some (low, after) =>
        if 0xdc00 ≤ low && low ≤ 0xdfff then
          .ok (some (Char.ofNat (0x10000 + (high - 0xd800) * 0x400 + (low - 0xdc00))), after)
        else .ok (none, '\\' :: 'u' :: rest)
  | rest => .ok (none, rest)

/-- The character of an escape, after its backslash. Half of a surrogate pair alone is none. -/
def escape (opening : Nat) : List Char → Except ReadError (Option Char × List Char)
  | [] => .error (.malformed opening)
  | c :: rest =>
    if c == 'u' then
      match hex4? rest with
      | none => .error (.malformed (rest.length + 1))
      | some (n, after) =>
        if 0xd800 ≤ n && n ≤ 0xdbff then lowSurrogate n after
        else if 0xdc00 ≤ n && n ≤ 0xdfff then .ok (none, after)
        else .ok (some (Char.ofNat n), after)
    else match simpleEscape? c with
      | some e => .ok (some e, rest)
      | none => .error (.malformed (rest.length + 2))

/-- The string after its opening quotation mark, which stands `opening` characters before the end of
the text; `done` holds what is already read, the last character first. -/
def stringBody (opening fuel : Nat) (done : List (Option Char)) (cs : List Char) :
    Except ReadError (Option String × List Char) :=
  match fuel, cs with
  | 0, _ => .error (.malformed opening)
  | _ + 1, [] => .error (.malformed opening)
  | fuel + 1, c :: rest =>
    if c == '\x22' then .ok ((done.reverse.mapM id).map String.ofList, rest)
    else if c == '\\' then
      match escape opening rest with
      | .error e => .error e
      | .ok (e, after) => stringBody opening fuel (e :: done) after
    else if c.toNat < 0x20 then .error (.malformed (rest.length + 1))
    else stringBody opening fuel (some c :: done) rest

/-- The string after an opening quotation mark, if it is a text. -/
def string (rest : List Char) : Except ReadError (Option String × List Char) :=
  stringBody (rest.length + 1) (rest.length + 1) [] rest

/-! ## Numbers and words -/

/-- The digits of a whole number: a zero, or digits of which the first is not zero. -/
def wholeDigits : List Char → List Char
  | [] => []
  | c :: rest => if c == '0' then [c] else (c :: rest).takeWhile Char.isDigit

/-- A point with the digits after it, if there are any. -/
def fractionPart : List Char → List Char
  | '.' :: rest =>
    let ds := rest.takeWhile Char.isDigit
    if ds.isEmpty then [] else '.' :: ds
  | _ => []

/-- An exponent, if it has digits. -/
def exponentPart : List Char → List Char
  | c :: rest =>
    if c == 'e' || c == 'E' then
      let mark := match rest with
        | s :: _ => if s == '+' || s == '-' then [s] else []
        | [] => []
      let ds := (rest.drop mark.length).takeWhile Char.isDigit
      if ds.isEmpty then [] else c :: mark ++ ds
    else []
  | [] => []

/-- The number at the front of a text: an integer if it has neither point nor exponent. -/
def number (cs : List Char) : Except ReadError (Json × List Char) :=
  let mark := match cs with
    | '-' :: _ => ['-']
    | _ => []
  let body := cs.drop mark.length
  let whole := wholeDigits body
  if whole.isEmpty then .error (.malformed cs.length)
  else
    let part := fractionPart (body.drop whole.length)
    let power := exponentPart (body.drop (whole.length + part.length))
    let rest := body.drop (whole.length + part.length + power.length)
    if part.isEmpty && power.isEmpty then
      if Numeral.maxDigits < whole.length then .error .tooManyDigits
      else
        let n := Numeral.natOf whole
        .ok (.integer (if mark.isEmpty then n else -n), rest)
    else match Numeral.real? (mark ++ whole ++ part ++ power) with
      | some x => .ok (.real x, rest)
      | none => .error (.malformed cs.length)

/-- The words that stand for a value. -/
def words : List (List Char × Json) := [
  ("null".toList, .null), ("true".toList, .bool true), ("false".toList, .bool false),
  ("NaN".toList, .real .nan), ("Infinity".toList, .real (.infinity false)),
  ("-Infinity".toList, .real (.infinity true))]

/-- The word at the front of a text. -/
def word? (cs : List Char) : Option (Json × List Char) :=
  (words.find? fun w => w.1.isPrefixOf cs).map fun w => (w.2, cs.drop w.1.length)

/-! ## Values -/

mutual

/-- The value at the front of a text. -/
def value (fuel : Nat) (cs : List Char) : Except ReadError (Json × List Char) :=
  match fuel with
  | 0 => .error (.malformed cs.length)
  | fuel + 1 =>
    match cs with
    | '\x22' :: rest => do
      let (s, after) ← string rest
      return (s.elim .halfPair .string, after)
    | '[' :: rest =>
      match skipSpace rest with
      | ']' :: after => .ok (.array [], after)
      | first => do
        let (items, after) ← elements fuel first
        return (.array items, after)
    | '{' :: rest =>
      match skipSpace rest with
      | '}' :: after => .ok (.object [], after)
      | first => do
        let (fields, after) ← members fuel [] first
        return (.object fields, after)
    | _ => match word? cs with
      | some r => .ok r
      | none => number cs

/-- The items of an array up to its closing bracket. -/
def elements (fuel : Nat) (cs : List Char) : Except ReadError (List Json × List Char) :=
  match fuel with
  | 0 => .error (.malformed cs.length)
  | fuel + 1 => do
    let (item, after) ← value fuel cs
    match skipSpace after with
    | ']' :: rest => return ([item], rest)
    | ',' :: rest =>
      let (items, rest) ← elements fuel (skipSpace rest)
      return (item :: items, rest)
    | rest => .error (.malformed rest.length)

/-- The fields of an object up to its closing brace, added to those already read. A field whose name
is no text is left out, since it cannot be asked for. -/
def members (fuel : Nat) (fields : List (String × Json)) (cs : List Char) :
    Except ReadError (List (String × Json) × List Char) :=
  match fuel with
  | 0 => .error (.malformed cs.length)
  | fuel + 1 =>
    match cs with
    | '\x22' :: rest => do
      let (name, after) ← string rest
      match skipSpace after with
      | ':' :: rest =>
        let (v, after) ← value fuel (skipSpace rest)
        let fields := name.elim fields fun name => insertField name v fields
        match skipSpace after with
        | '}' :: rest => return (fields, rest)
        | ',' :: rest => members fuel fields (skipSpace rest)
        | rest => .error (.malformed rest.length)
      | rest => .error (.malformed rest.length)
    | _ => .error (.malformed cs.length)

end

end Reader

/-- Read a text as one JSON value, or say why not, with the offset of a place. Two steps for each
character are enough for any text. -/
def read (text : List Char) : Except ReadError Json :=
  let start := Reader.skipSpace text
  let result : Except ReadError Json := do
    let (v, after) ← Reader.value (2 * text.length + 2) start
    match Reader.skipSpace after with
    | [] => return v
    | rest => .error (.malformed rest.length)
  result.mapError fun
    | .malformed rest => .malformed (text.length - rest)
    | .tooManyDigits => .tooManyDigits

end Radius.Json
