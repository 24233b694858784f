import Radius.Number.Binary64

/-!
# JSON values

A JSON number is an integer or a double, as it is written. An object keeps its fields in order and
holds every name once. A string can be spelled that is no text, with half of a surrogate pair in it;
what else it holds is not kept.
-/

namespace Radius

/-- A JSON value. -/
inductive Json where
  | null
  | bool (b : Bool)
  | integer (n : Int)
  | real (x : Binary64)
  | string (s : String)
  /-- A string with half of a surrogate pair in it. -/
  | halfPair
  | array (items : List Json)
  | object (fields : List (String × Json))
  deriving Inhabited

namespace Json

/-- The field of a name, if the value is an object that has it. -/
def field? (name : String) : Json → Option Json
  | object fields => fields.lookup name
  | _ => none

/-- Fields with one more: a name that is there already gets the new value in its old place. -/
def insertField (name : String) (value : Json) : List (String × Json) → List (String × Json)
  | [] => [(name, value)]
  | (n, v) :: rest =>
    if n == name then (n, value) :: rest else (n, v) :: insertField name value rest

mutual

/-- Whether a value can be written as JSON: its numbers are finite, and its strings are texts. -/
def hasText : Json → Bool
  | real x => x.isFinite
  | halfPair => false
  | array items => allHaveText items
  | object fields => fieldsHaveText fields
  | _ => true

/-- Whether all items can be written. -/
def allHaveText : List Json → Bool
  | [] => true
  | j :: rest => j.hasText && allHaveText rest

/-- Whether the values of all fields can be written. -/
def fieldsHaveText : List (String × Json) → Bool
  | [] => true
  | (_, j) :: rest => j.hasText && fieldsHaveText rest

end

end Json

end Radius
