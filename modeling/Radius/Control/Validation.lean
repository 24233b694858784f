import Radius.Json.Reader
import Radius.Number.Machine
import Radius.Text.Split

/-!
# Validation of request bodies

The bodies of the two control writes are JSON objects. A field takes every value that can be read
as a number of its kind: numbers, truth values and texts that spell numbers. What is wrong with a
body is a list of issues, at most one for each field, in the order of the fields; fields that are
not asked for are ignored. A body can also be refused without issues (`Refusal`).

An issue remembers the input it complains about, since the answer to a refused body quotes it.
-/

namespace Radius.Control

/-- What is wrong with an input. -/
inductive IssueKind where
  | tooSmall (bound : Nat)
  | tooLarge (bound : Nat)
  | integerType
  | integerText
  | integerSize
  | fractional
  | notFinite
  | numberType
  | numberText
  | textType
  | notText
  | textTooShort
  | missing
  | notObject
  | invalidJson
  deriving DecidableEq, Repr

namespace IssueKind

/-- The name of a kind of issue. -/
def name : IssueKind → String
  | tooSmall _ => "greater_than_equal"
  | tooLarge _ => "less_than_equal"
  | integerType => "int_type"
  | integerText => "int_parsing"
  | integerSize => "int_parsing_size"
  | fractional => "int_from_float"
  | notFinite => "finite_number"
  | numberType => "float_type"
  | numberText => "float_parsing"
  | textType => "string_type"
  | notText => "string_unicode"
  | textTooShort => "string_too_short"
  | missing => "missing"
  | notObject => "model_attributes_type"
  | invalidJson => "json_invalid"

/-- What is said of an issue. -/
def message : IssueKind → String
  | tooSmall n => "Input should be greater than or equal to " ++ toString n
  | tooLarge n => "Input should be less than or equal to " ++ toString n
  | integerType => "Input should be a valid integer"
  | integerText => "Input should be a valid integer, unable to parse string as an integer"
  | integerSize => "Unable to parse input string as an integer, exceeded maximum size"
  | fractional => "Input should be a valid integer, got a number with a fractional part"
  | notFinite => "Input should be a finite number"
  | numberType => "Input should be a valid number"
  | numberText => "Input should be a valid number, unable to parse string as a number"
  | textType => "Input should be a valid string"
  | notText => "Input should be a valid string, unable to parse raw data as a unicode string"
  | textTooShort => "String should have at least 1 character"
  | missing => "Field required"
  | notObject => "Input should be a valid dictionary or object to extract fields from"
  | invalidJson => "JSON decode error"

end IssueKind

/-- Where in the body an issue lies. -/
inductive Place where
  | body
  | field (name : String)
  | offset (position : Nat)
  deriving DecidableEq, Repr

/-- An issue: what is wrong, where in the body, and with which input. -/
structure Issue where
  kind : IssueKind
  place : Place
  input : Json

/-- Why a body is refused. -/
inductive Refusal where
  /-- The body cannot be read, and not because it is no JSON. -/
  | unreadable
  | issues (list : List Issue)

/-! ## Numbers -/

/-- A text without its underscores, if they only stand one at a time inside it. -/
def dropUnderscores? (cs : List Char) : Option (List Char) :=
  let doubled := (cs.zip (cs.drop 1)).any fun p => p.1 == '_' && p.2 == '_'
  if cs.head? == some '_' || cs.getLast? == some '_' || doubled then none
  else some (cs.filter (· != '_'))

/-- A numeral without a fraction of zeros alone. -/
def dropZeroFraction? (cs : List Char) : Option (List Char) :=
  match cs.dropWhile (· != '.') with
  | [] => some cs
  | _ :: zeros =>
    if !zeros.isEmpty && zeros.all (· == '0') then some (cs.takeWhile (· != '.')) else none

/-- The longest text that is read as an integer. -/
def maxIntegerText : Nat := 4300

/-- The integer a text spells: blanks around, a sign, digits with single underscores between them,
and a fraction of zeros. -/
def integerOfText (s : String) : Except IssueKind Int :=
  let body := do
    let (negative, cs) := Numeral.sign (Text.trim Text.isBlank s.toList)
    let digits ← dropUnderscores? (← dropZeroFraction? cs)
    let n ← Numeral.natural? digits
    return if negative then -(n : Int) else n
  match body with
  | some n => .ok n
  | none => .error (if maxIntegerText < s.length then .integerSize else .integerText)

/-- The integer an input stands for. A double has to be whole and of machine size. -/
def integerOf : Json → Except IssueKind Int
  | .integer n => .ok n
  | .bool b => .ok (if b then 1 else 0)
  | .string s => integerOfText s
  | .halfPair => .error .notText
  | .real x =>
    if !x.isFinite then .error .notFinite
    else match x.toInt? with
      | none => .error .fractional
      | some n => if Machine.signedBound ≤ n.natAbs then .error .integerSize else .ok n
  | _ => .error .integerType

/-- The double a text spells: blanks around, and single underscores inside. -/
def realOfText (s : String) : Except IssueKind Binary64 :=
  let cs := Text.trim Text.isBlank s.toList
  match (Numeral.real? cs).or ((dropUnderscores? cs).bind Numeral.real?) with
  | some x => .ok x
  | none => .error .numberText

/-- The double an input stands for. -/
def realOf : Json → Except IssueKind Binary64
  | .real x => .ok x
  | .integer n => match Binary64.ofInt? n with
    | some x => .ok x
    | none => .error .numberType
  | .bool b => .ok (if b then .one else .zero)
  | .string s => realOfText s
  | .halfPair => .error .notText
  | _ => .error .numberType

/-! ## Fields -/

/-- The largest delay in milliseconds. -/
def maxDelay : Nat := 5000

/-- A delay: an integer from zero to the largest one. -/
def delayOf (input : Json) : Except IssueKind Int := do
  let n ← integerOf input
  if maxDelay < n then throw (.tooLarge maxDelay)
  if n < 0 then throw (.tooSmall 0)
  return n

/-- A rate: a double from zero to one. What is not a number is not at most one, and refused as too
large. -/
def rateOf (input : Json) : Except IssueKind Binary64 := do
  let x ← realOf input
  if !x.le .one then throw (.tooLarge 1)
  if !Binary64.zero.le x then throw (.tooSmall 0)
  return x

/-- A secret: a text that is not empty. -/
def secretOf : Json → Except IssueKind String
  | .string s => if s.isEmpty then .error .textTooShort else .ok s
  | .halfPair => .error .notText
  | _ => .error .textType

/-- A field of an object read by its rule, or its default if there is no such field. -/
def fieldOr {α : Type} (body : Json) (name : String) (default : α)
    (rule : Json → Except IssueKind α) : Except Issue α :=
  match body.field? name with
  | none => .ok default
  | some input => (rule input).mapError fun kind => ⟨kind, .field name, input⟩

/-- A field that has to be there, read by its rule. -/
def requiredField {α : Type} (body : Json) (name : String) (rule : Json → Except IssueKind α) :
    Except Issue α :=
  match body.field? name with
  | none => .error ⟨.missing, .field name, body⟩
  | some input => (rule input).mapError fun kind => ⟨kind, .field name, input⟩

/-- The issue of a result that is one. -/
def issueOf {α : Type} : Except Issue α → List Issue
  | .ok _ => []
  | .error i => [i]

/-- The body of a write of the faults. -/
structure FaultsBody where
  delay : Int
  dropRate : Binary64
  corruptRate : Binary64

/-- Read the fields of a write of the faults. -/
def readFaults (body : Json) : Except Refusal FaultsBody :=
  let delay := fieldOr body "delay_ms" 0 delayOf
  let drop := fieldOr body "drop_rate" Binary64.zero rateOf
  let corrupt := fieldOr body "corrupt_rate" Binary64.zero rateOf
  match delay, drop, corrupt with
  | .ok d, .ok p, .ok q => .ok ⟨d, p, q⟩
  | _, _, _ => .error (.issues (issueOf delay ++ issueOf drop ++ issueOf corrupt))

/-- Read the field of a write of the secret. -/
def readSecret (body : Json) : Except Refusal String :=
  (requiredField body "secret" secretOf).mapError fun i => .issues [i]

/-! ## Bodies -/

/-- What a request carries. -/
inductive Body where
  | empty
  /-- A value sent as JSON. -/
  | json (value : Json)
  /-- A text, with its media type if one is named. -/
  | text (content : String) (mediaType : Option String)

/-- Whether a media type is that of JSON, or of a format built on it. Parameters after a semicolon
are ignored. -/
def isJsonType (mediaType : String) : Bool :=
  let name := (mediaType.toList.takeWhile (· != ';')).map Char.toLower
  match Text.split '/' (Text.trim Text.isBlank name) with
  | [main, sub] =>
    String.ofList main == "application" &&
      (String.ofList sub == "json" || "+json".toList.isSuffixOf sub)
  | _ => false

/-- The value of a body, nothing for an empty one. A text that is not declared to be something else
than JSON is read as JSON, without a byte order mark at its front. -/
def Body.value : Body → Except Refusal (Option Json)
  | empty => .ok none
  | json v => .ok (some v)
  | text content mediaType =>
    if content.isEmpty then .ok none
    else if mediaType.all isJsonType then
      let cs := match content.toList with
        | '\ufeff' :: rest => rest
        | cs => cs
      match Json.read cs with
      | .ok v => .ok (some v)
      | .error (.malformed place) => .error (.issues [⟨.invalidJson, .offset place, .object []⟩])
      | .error .tooManyDigits => .error .unreadable
    else .ok (some (.string content))

/-- The object a body holds. Nothing, and null, count as no body at all. -/
def Body.object (b : Body) : Except Refusal Json :=
  match b.value with
  | .error why => .error why
  | .ok none | .ok (some .null) => .error (.issues [⟨.missing, .body, .null⟩])
  | .ok (some (.object fields)) => .ok (.object fields)
  | .ok (some v) => .error (.issues [⟨.notObject, .body, v⟩])

end Radius.Control
