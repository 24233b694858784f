import Radius.Simulator.Faults

/-!
# The simulator

The state of a responder simulator: the secret it shares with its clients, the users and passwords
it accepts, the faults it is set to, and what it has counted. `Simulator.reset` puts everything
that changes back to the start but counts the resets.
-/

namespace Radius

/-- What a simulator has counted since its last reset. -/
structure Counters where
  received : Nat := 0
  sent : Nat := 0
  dropped : Nat := 0
  deriving DecidableEq, Repr

/-- A responder simulator. The secret in force can be another than the default one, which a reset
brings back; a user is a name with its password. -/
structure Simulator where
  defaultSecret : Value
  users : List (String × Value)
  secret : Value
  counters : Counters
  resetCount : Nat
  faults : Faults

namespace Simulator

/-- The secret of a simulator that is given none. -/
def standardSecret : Value := .bytes (Text.Utf8.encode "testing123".toList)

/-- The users of a simulator that is given none. -/
def standardUsers : List (String × Value) :=
  [("alice", .bytes (Text.Utf8.encode "wonderland".toList))]

/-- A simulator that has seen nothing yet. -/
def start (defaultSecret : Value) (users : List (String × Value)) (faults : Faults) : Simulator :=
  ⟨defaultSecret, users, defaultSecret, {}, 0, faults⟩

/-- Back to the start, except for the count of resets. -/
def reset (s : Simulator) : Simulator :=
  { start s.defaultSecret s.users {} with resetCount := s.resetCount + 1 }

/-- Whether a password is that of a user. The password of a user that does not exist is nothing. -/
def accepts (s : Simulator) (user password : Value) : Except OperandError Bool :=
  match user with
  | .text name => .ok (((s.users.lookup name).getD .absent).same password)
  | .list _ | .buffer _ => .error (.noKey user.kind)
  | _ => .ok (Value.absent.same password)

end Simulator

end Radius
