import Radius.Control.Service

/-!
# The client of the control service

A `Session` is a client together with the service it talks to. Its calls give the JSON body of the
answer, or a `CallError`: the client is closed, the service refuses the request, or the answer has
no text.
-/

namespace Radius.Control

/-- Why a call gives no body. -/
inductive CallError where
  | closed
  /-- The service answers with an error status for this path. -/
  | refused (status : Nat) (path : String)
  | failure
  /-- The service has no port to tell. -/
  | noPort
  deriving DecidableEq, Repr

namespace CallError

/-- The words for an error status. -/
def statusText : Nat → String
  | 400 => "Bad Request"
  | 404 => "Not Found"
  | 405 => "Method Not Allowed"
  | 422 => "Unprocessable Entity"
  | _ => ""

/-- What is said of a failed call to the service at an address, where the error statuses are
explained by number at the address of a reference. -/
def message (service reference : String) : CallError → String
  | closed => "Cannot send a request, as the client has been closed."
  | refused status path =>
    "Client error '" ++ toString status ++ " " ++ statusText status ++ "' for url '" ++ service ++
      path ++ "'\nFor more information check: " ++ reference ++ toString status
  | failure => Answer.failureMessage
  | noPort =>
    "int() argument must be a string, a bytes-like object or a real number, not 'NoneType'"

end CallError

/-- A client and the service it talks to. -/
structure Session where
  service : Service
  isClosed : Bool := false

namespace Session

/-- Close the client. It cannot be opened again. -/
def close (s : Session) : Session := { s with isClosed := true }

/-- Send a request, unless the client is closed or the request has no JSON text. -/
def request (s : Session) (r : Request) : Session × Except CallError Answer :=
  let sendable := match r.body with
    | .json v => v.hasText
    | _ => true
  if s.isClosed then (s, .error .closed)
  else if !sendable then (s, .error .failure)
  else
    let (service, answer) := s.service.handle r
    ({ s with service }, .ok answer)

/-- Send a request and take the body of its answer. -/
def call (s : Session) (method : Method) (path : String) (body : Body) :
    Session × Except CallError Json :=
  let (s, answer) := s.request ⟨method, path, body⟩
  (s, answer.bind fun
    | .json status v => if status < 400 then .ok v else .error (.refused status path)
    | .issues _ => .error (.refused 422 path)
    | .failure => .error .failure)

/-- Ask whether the service is there. -/
def health (s : Session) : Session × Except CallError Json := s.call .get "/health" .empty

/-- Ask for the status. -/
def status (s : Session) : Session × Except CallError Json := s.call .get "/status" .empty

/-- Reset the simulator. -/
def reset (s : Session) : Session × Except CallError Json := s.call .post "/control/reset" .empty

/-- Ask for the faults in force. -/
def faults (s : Session) : Session × Except CallError Json := s.call .get "/control/faults" .empty

/-- Set the faults. A field that is not given is sent as zero. -/
def setFaults (s : Session) (delay dropRate corruptRate : Option Json) :
    Session × Except CallError Json :=
  s.call .post "/control/faults" (.json (.object [("delay_ms", delay.getD (.integer 0)),
    ("drop_rate", dropRate.getD (.real .zero)), ("corrupt_rate", corruptRate.getD (.real .zero))]))

/-- Set the secret. -/
def setSecret (s : Session) (secret : Json) : Session × Except CallError Json :=
  s.call .post "/control/secret" (.json (.object [("secret", secret)]))

/-- The port the simulator receives datagrams at. -/
def udpPort (s : Session) : Session × Except CallError Json :=
  let (s, status) := s.status
  (s, status.bind fun v => match v.field? "udp_port" with
    | some (.integer n) => .ok (.integer n)
    | _ => .error .noPort)

end Session

end Radius.Control
