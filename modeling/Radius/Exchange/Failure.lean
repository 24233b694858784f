import Radius.Endpoint
import Radius.Exchange.Cause

/-!
# Failures of an exchange

An exchange that fails reports one `ExchangeError`: the step that failed, the cause if there is
one, and the remote endpoint for the steps that talk to it.

`ofName?_name` : a step is known by its name.
-/

namespace Radius

/-- The step of an exchange that failed. -/
inductive FailedStep where
  | bind
  | connect
  | connectionTimeout
  | encodePacket
  | send
  | receive
  | socketTimeout
  | decodePacket
  deriving DecidableEq, Repr, Inhabited

namespace FailedStep

/-- All steps, in order. -/
def all : List FailedStep := [bind, connect, connectionTimeout, encodePacket, send, receive,
  socketTimeout, decodePacket]

/-- The name of a step. -/
def name : FailedStep → String
  | bind => "BIND"
  | connect => "CONNECT"
  | connectionTimeout => "CONNECTION_TIMEOUT"
  | encodePacket => "ENCODE_PACKET"
  | send => "SEND"
  | receive => "RECEIVE"
  | socketTimeout => "SOCKET_TIMEOUT"
  | decodePacket => "DECODE_PACKET"

/-- The step of a name. -/
def ofName? (s : String) : Option FailedStep := all.find? fun k => k.name == s

@[simp] theorem ofName?_name (k : FailedStep) : ofName? k.name = some k := by
  cases k <;> decide

/-- The step a value names. -/
def ofValue? : Value → Option FailedStep
  | .text s => ofName? s
  | _ => none

/-- What is said of a value that names no step. -/
def refusal (v : Value) : String := v.quoted ++ " is not a valid ErrorKind"

/-- What is said of a failure at this step. -/
def describe (remote : String) : FailedStep → String
  | bind => "failed to bind a UDP socket"
  | connect => "failed to establish a UDP connection to " ++ remote
  | connectionTimeout => "connection timeout"
  | encodePacket => "failed to encode a RADIUS request"
  | send => "failed to send a UDP datagram to " ++ remote
  | receive => "failed to receive the UDP response from " ++ remote
  | socketTimeout => "socket timeout"
  | decodePacket => "failed to decode a RADIUS response packet"

end FailedStep

/-- A failed exchange: the step that failed, the cause unless time ran out, and the remote endpoint
if the step talks to it. -/
structure ExchangeError where
  step : FailedStep
  cause : Option Cause
  remote : Option Endpoint

namespace ExchangeError

/-- Whether a time window closed. -/
def isTimeout (e : ExchangeError) : Bool :=
  e.step == .connectionTimeout || e.step == .socketTimeout

/-- The remote endpoint in messages. -/
def remoteText (e : ExchangeError) : String := e.remote.elim "None" Endpoint.text

/-- What failed, and the cause's own words. -/
def message (e : ExchangeError) : String :=
  let what := e.step.describe e.remoteText
  match e.cause with
  | none => what
  | some c => what ++ "; " ++ c.message

/-- The failure with its fields named. -/
def quoted (e : ExchangeError) : String :=
  "ClientError(kind=" ++ e.step.name ++ ", remote=" ++ e.remoteText ++ ", cause=" ++
    e.cause.elim "None" Cause.quoted ++ ")"

end ExchangeError

end Radius
