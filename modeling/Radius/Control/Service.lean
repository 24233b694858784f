import Radius.Control.Validation
import Radius.Settings
import Radius.Simulator.Receive

/-!
# The control service

The service reads and changes a simulator on request (`Service.handle`). Reading gives the health,
the status and the faults; writing resets the simulator or sets its faults or its secret. A write
whose body is refused changes nothing.

An answer is written as JSON, which has no text for numbers that are not finite and for strings that
are no texts. An answer that holds one fails instead (`Answer.failure`). The answer to a write is
made after the change; the answer to a refused body quotes what is wrong with it.
-/

namespace Radius.Control

/-- The methods of requests that are told apart. -/
inductive Method where
  | get
  | post
  | other
  deriving DecidableEq, Repr

/-- The method of a name, in any case. -/
def Method.ofName (name : String) : Method :=
  let upper := String.ofList (name.toList.map Char.toUpper)
  if upper == "GET" then get else if upper == "POST" then post else other

/-- What can be asked for. -/
inductive Resource where
  | health
  | status
  | reset
  | faults
  | secret
  deriving DecidableEq, Repr

/-- The resource of a path, with or without the slash at its front. What follows a question mark or
a number sign is ignored, and so are slashes at the end. -/
def Resource.ofPath? (path : String) : Option Resource :=
  let plain := path.toList.takeWhile fun c => c != '?' && c != '#'
  let trimmed := (plain.reverse.dropWhile (· == '/')).reverse
  let relative := match trimmed with
    | '/' :: rest => rest
    | cs => cs
  match (Text.split '/' relative).map String.ofList with
  | ["health"] => some health
  | ["status"] => some status
  | ["control", "reset"] => some reset
  | ["control", "faults"] => some faults
  | ["control", "secret"] => some secret
  | _ => none

/-- A request as it reaches the service. -/
structure Request where
  method : Method
  path : String
  body : Body

/-- The answer to a request. -/
inductive Answer where
  | json (status : Nat) (body : Json)
  | issues (list : List Issue)
  /-- The answer has no JSON text. -/
  | failure

/-- What is said when an answer has no JSON text because of a number in it. -/
def Answer.failureMessage : String := "Out of range float values are not JSON compliant"

/-- A service over a simulator, and the address it receives datagrams at, if it has started. -/
structure Service where
  simulator : Simulator
  address : Option (String × Int)

namespace Service

/-- The service of some settings, before it receives datagrams. -/
def ofSettings (s : Settings) : Service :=
  ⟨Simulator.start (.bytes (Text.Utf8.encode s.secret.toList)) Simulator.standardUsers {}, none⟩

/-- Start to receive datagrams. -/
def start (service : Service) (s : Settings) : Service :=
  { service with address := some (s.udpHost, s.udpPort) }

/-! ## Views -/

/-- A fault field as JSON. -/
def fieldJson : Value → Json
  | .flag b => .bool b
  | .integer n => .integer n
  | .real x => .real x
  | .text s => .string s
  | _ => .null

/-- Faults as JSON. -/
def faultsJson (f : Faults) : Json :=
  .object [("delay_ms", fieldJson f.delay), ("drop_rate", fieldJson f.dropRate),
    ("corrupt_rate", fieldJson f.corruptRate)]

/-- Counts as JSON. -/
def countersJson (c : Counters) : Json :=
  .object [("requests_received", .integer c.received), ("responses_sent", .integer c.sent),
    ("dropped", .integer c.dropped)]

/-- The status as JSON. There is no port before the service has started. -/
def statusJson (service : Service) : Json :=
  .object [("udp_port", match service.address with
      | some (_, port) => .integer port
      | none => .null),
    ("reset_count", .integer service.simulator.resetCount),
    ("counters", countersJson service.simulator.counters),
    ("faults", faultsJson service.simulator.faults)]

/-- An answer of status 200. -/
def succeed (body : Json) : Answer := if body.hasText then .json 200 body else .failure

/-- An answer that says why there is none. -/
def deny (status : Nat) (detail : String) : Answer :=
  .json status (.object [("detail", .string detail)])

/-- The answer to a refused body. -/
def refuse : Refusal → Answer
  | .unreadable => deny 400 "There was an error parsing the body"
  | .issues list => if list.all fun i => i.input.hasText then .issues list else .failure

/-! ## Requests -/

/-- Reset the simulator, and tell how often that has been done. -/
def reset (service : Service) : Service × Answer :=
  let s := service.simulator.reset
  ({ service with simulator := s },
    succeed (.object [("status", .string "reset"), ("reset_count", .integer s.resetCount)]))

/-- Set the faults of the simulator. -/
def setFaults (service : Service) (body : Body) : Service × Answer :=
  match body.object.bind readFaults with
  | .error why => (service, refuse why)
  | .ok b =>
    let faults : Faults := ⟨.integer b.delay, .real b.dropRate, .real b.corruptRate⟩
    ({ service with simulator := { service.simulator with faults } },
      succeed (.object [("status", .string "faults_updated"), ("faults", faultsJson faults)]))

/-- Set the secret of the simulator. -/
def setSecret (service : Service) (body : Body) : Service × Answer :=
  match body.object.bind readSecret with
  | .error why => (service, refuse why)
  | .ok secret =>
    let secret := Value.bytes (Text.Utf8.encode secret.toList)
    ({ service with simulator := { service.simulator with secret } },
      succeed (.object [("status", .string "secret_updated")]))

/-- Answer a request. -/
def handle (service : Service) (r : Request) : Service × Answer :=
  match Resource.ofPath? r.path, r.method with
  | none, _ => (service, deny 404 "Not Found")
  | some .health, .get => (service, succeed (.object [("status", .string "ok")]))
  | some .status, .get => (service, succeed service.statusJson)
  | some .faults, .get => (service, succeed (faultsJson service.simulator.faults))
  | some .reset, .post => service.reset
  | some .faults, .post => service.setFaults r.body
  | some .secret, .post => service.setSecret r.body
  | some _, _ => (service, deny 405 "Method Not Allowed")

/-- Handle a datagram at the simulator. -/
def receive (service : Service) (data : Value) (sender : Peer) (chance : Chance) :
    Service × Handled :=
  let h := service.simulator.receive data sender chance
  ({ service with simulator := h.simulator }, h)

end Service

end Radius.Control
