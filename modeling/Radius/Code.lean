import Radius.Value.Printer

/-!
# Packet codes

The codes a packet may carry. `Code.ofNumber?` and `Code.number` are inverse to each other
(`ofNumber?_number`, `number_of_ofNumber?`), and `Code.ofValue?` takes every value that equals the
number of a code.
-/

namespace Radius

/-- The kinds of packets: the requests, and the replies to them. -/
inductive Code where
  | accessRequest
  | accessAccept
  | accessReject
  | accountingRequest
  | accountingResponse
  | accessChallenge
  | statusServer
  deriving DecidableEq, Repr, Inhabited

namespace Code

/-- All codes, in ascending order of their numbers. -/
def all : List Code := [accessRequest, accessAccept, accessReject, accountingRequest,
  accountingResponse, accessChallenge, statusServer]

/-- The number of a code on the wire. -/
def number : Code → Nat
  | accessRequest => 1
  | accessAccept => 2
  | accessReject => 3
  | accountingRequest => 4
  | accountingResponse => 5
  | accessChallenge => 11
  | statusServer => 12

/-- The name of a code. -/
def name : Code → String
  | accessRequest => "ACCESS_REQUEST"
  | accessAccept => "ACCESS_ACCEPT"
  | accessReject => "ACCESS_REJECT"
  | accountingRequest => "ACCOUNTING_REQUEST"
  | accountingResponse => "ACCOUNTING_RESPONSE"
  | accessChallenge => "ACCESS_CHALLENGE"
  | statusServer => "STATUS_SERVER"

/-- The code of a number. -/
def ofNumber? : Nat → Option Code
  | 1 => some accessRequest
  | 2 => some accessAccept
  | 3 => some accessReject
  | 4 => some accountingRequest
  | 5 => some accountingResponse
  | 11 => some accessChallenge
  | 12 => some statusServer
  | _ => none

@[simp] theorem ofNumber?_number (c : Code) : ofNumber? c.number = some c := by
  cases c <;> rfl

theorem number_of_ofNumber? {n : Nat} {c : Code} (h : ofNumber? n = some c) : c.number = n := by
  unfold ofNumber? at h
  split at h <;> simp_all [number] <;> simp [← h]

/-- Whether a request of this code carries a random authenticator rather than a digest. -/
def hasRandomAuthenticator : Code → Bool
  | accessRequest | statusServer => true
  | _ => false

/-- The value that stands for a code. -/
def toValue (c : Code) : Value := .integer c.number

/-- The code whose number a value equals. -/
def ofValue? (v : Value) : Option Code := all.find? fun c => v.isNumber c.number

/-- What is said of a value that is no code. -/
def refusal (v : Value) : String := v.quoted ++ " is not a valid Code"

end Code

end Radius
