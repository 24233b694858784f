import Radius.Exchange.Failure
import Radius.Packet.Wire
import Radius.Settings

/-!
# The exchange

One exchange sends a request to an endpoint over a fresh socket and waits for the reply. What the
network does is given (`Network`): whether each operation suspends, how long it takes and how it
ends. `Client.exchange` gives the outcome, the socket effects in order and the time that passed.

Two time windows guard the exchange, one the association with the endpoint, the other sending and
receiving together. A window closes at its limit, one without a positive limit as soon as an
operation suspends, and an operation that does not suspend never finds it closed (`Window.run`).
The request is encoded after the association; nothing is sent twice.
-/

namespace Radius

/-! ## Operations of the network -/

/-- How long an operation takes. -/
inductive Wait where
  /-- It completes without suspending. -/
  | immediate
  | suspended (seconds : Rat)
  | forever

/-- An operation of the network: how long it takes and how it ends. -/
structure Operation (α : Type) where
  wait : Wait
  result : Except Cause α

/-- An operation that completes at once. -/
def Operation.now {α : Type} (a : α) : Operation α := ⟨.immediate, .ok a⟩

/-- What the network does in one exchange. What is received may depend on what was sent. -/
structure Network where
  socket : Except Cause Unit
  /-- Making the socket one whose operations can suspend. -/
  configure : Except Cause Unit := .ok ()
  bind : Except Cause Unit
  /-- Looking up the address that the socket was bound to. -/
  localAddress : Except Cause Unit := .ok ()
  connect : Operation Unit
  send : Operation Unit
  receive : Bytes → Operation Bytes

/-! ## Time windows -/

/-- How an operation ends inside a window. -/
inductive Ending (α : Type) where
  | finished (a : α)
  | failed (cause : Cause)
  | closed
  /-- Neither the operation nor the window ever ends. -/
  | waiting

/-- How long a window stays open: for ever, or until a limit in seconds. -/
inductive Window where
  | unlimited
  | limited (seconds : Rat)

namespace Window

/-- The window of a timeout. An infinite one never closes. -/
def ofTimeout : Option Binary64 → Window
  | none => unlimited
  | some x =>
    if x.isNaN then unlimited
    else if x.isInfinite then if x.isNegative then limited (-1) else unlimited
    else limited x.toRat

/-- The end of an operation that is left to itself. -/
def endingOf {α : Type} : Except Cause α → Ending α
  | .ok a => .finished a
  | .error c => .failed c

/-- Run an operation in a window that has been open for `spent` seconds: how it ends, and how long
the window has been open then. -/
def run {α : Type} (w : Window) (spent : Rat) (op : Operation α) : Ending α × Rat :=
  match w, op.wait with
  | _, .immediate => (endingOf op.result, spent)
  | unlimited, .suspended t => (endingOf op.result, spent + t)
  | unlimited, .forever => (.waiting, spent)
  | limited limit, .suspended t =>
    if limit ≤ 0 then (.closed, spent)
    else if limit < spent + t then (.closed, limit)
    else (endingOf op.result, spent + t)
  | limited limit, .forever => (.closed, if limit ≤ 0 then spent else limit)

end Window

/-! ## The client -/

/-- The largest datagram that is received. -/
def maxDatagramSize : Nat := 65507

/-- What is done to the socket. -/
inductive Effect where
  | create (family : AddressFamily)
  | bind (host : String) (port : Nat)
  | connect (host port : Value)
  | send (data : Bytes)
  | receive (size : Nat)
  | close

/-- How an exchange ends. -/
inductive Outcome where
  | reply (packet : Packet)
  | failed (error : ExchangeError)
  /-- An operation of the network failed with something else than a system error. -/
  | raised (cause : Cause)
  /-- A field of the request has a kind that its encoding, or that of the reply, cannot use. -/
  | refused (why : PacketError)
  /-- Nothing is left to happen. -/
  | waiting

/-- An exchange that has been run : what was done to the socket, in order, and then how it ended. -/
structure Run where
  outcome : Outcome
  trace : List Effect
  elapsed : Rat

/-- A run after some effects and some time. -/
def Run.after (r : Run) (effects : List Effect) (time : Rat) : Run :=
  ⟨r.outcome, effects ++ r.trace, time + r.elapsed⟩

/-- A run that ends without another effect. -/
def Run.ending (outcome : Outcome) : Run := ⟨outcome, [], 0⟩

/-- The outcome of a failed operation: system errors are reported under the step. -/
def Outcome.ofCause (step : FailedStep) (remote : Option Endpoint) (c : Cause) : Outcome :=
  if c.isSystem then .failed ⟨step, some c, remote⟩ else .raised c

/-- A client: how many seconds it waits for the association, and how many for sending and receiving.
If none are given it waits for ever. -/
structure Client where
  connectionTimeout : Option Binary64
  socketTimeout : Option Binary64

namespace Client

/-- The client of some settings. -/
def ofSettings (s : Settings) : Client := ⟨s.connectionTimeout, s.socketTimeout⟩

/-- The window for the association with the endpoint. -/
def connectionWindow (c : Client) : Window := .ofTimeout c.connectionTimeout

/-- The window for sending and receiving. -/
def socketWindow (c : Client) : Window := .ofTimeout c.socketTimeout

/-- The outcome of a reply: it has to decode under the request's secret and the authenticator that
went out with the request. -/
def readReply (request : Packet) (sent response : Bytes) : Outcome :=
  match Packet.decode (.bytes response) request.secret
      (.bytes (Packet.sentAuthenticator sent)) with
  | .ok packet => .reply packet
  | .error (.decode why) => .failed ⟨.decodePacket, some (Cause.ofDecodeError why), none⟩
  | .error why => .refused why

/-- Send the encoded request and wait for the reply, in one window. -/
def converse (c : Client) (remote : Endpoint) (request : Packet) (net : Network) (data : Bytes) :
    Run :=
  let window := c.socketWindow
  let timeout : Outcome := .failed ⟨.socketTimeout, none, none⟩
  match window.run 0 net.send with
  | (.failed cause, t) => ⟨.ofCause .send remote cause, [.send data], t⟩
  | (.closed, t) => ⟨timeout, [.send data], t⟩
  | (.waiting, t) => ⟨.waiting, [.send data], t⟩
  | (.finished _, t) =>
    let effects := [.send data, .receive maxDatagramSize]
    match window.run t (net.receive data) with
    | (.failed cause, t) => ⟨.ofCause .receive remote cause, effects, t⟩
    | (.closed, t) => ⟨timeout, effects, t⟩
    | (.waiting, t) => ⟨.waiting, effects, t⟩
    | (.finished response, t) => ⟨readReply request data response, effects, t⟩

/-- Associate the bound socket with the endpoint, encode the request and converse. -/
def associate (c : Client) (remote : Endpoint) (request : Packet) (net : Network) : Run :=
  let effects := [.connect remote.host remote.port]
  match c.connectionWindow.run 0 net.connect with
  | (.failed cause, t) => ⟨.ofCause .connect remote cause, effects, t⟩
  | (.closed, t) => ⟨.failed ⟨.connectionTimeout, none, none⟩, effects, t⟩
  | (.waiting, t) => ⟨.waiting, effects, t⟩
  | (.finished _, t) =>
    match request.encode with
    | .error (.encode why) =>
      ⟨.failed ⟨.encodePacket, some (Cause.ofEncodeError why), none⟩, effects, t⟩
    | .error why => ⟨.refused why, effects, t⟩
    | .ok data => (c.converse remote request net data).after effects t

/-- Bind the socket to a local address of the endpoint's family and associate it. The address it got
is only noted, so an error of looking it up belongs to no step. -/
def prepare (c : Client) (remote : Endpoint) (request : Packet) (net : Network) : Run :=
  match net.configure with
  | .error cause => .ending (.ofCause .bind none cause)
  | .ok _ =>
    let bound := match net.bind with
      | .error cause => Run.ending (.ofCause .bind none cause)
      | .ok _ => match net.localAddress with
        | .error cause => .ending (.raised cause)
        | .ok _ => c.associate remote request net
    bound.after [.bind remote.family.wildcard.1 remote.family.wildcard.2] 0

/-- A run with the socket closed at its end, unless it does not end. -/
def closing (r : Run) : Run :=
  match r.outcome with
  | .waiting => r
  | _ => ⟨r.outcome, r.trace ++ [.close], r.elapsed⟩

/-- Perform one exchange. -/
def exchange (c : Client) (remote : Endpoint) (request : Packet) (net : Network) : Run :=
  let run := match net.socket with
    | .error cause => Run.ending (.ofCause .bind none cause)
    | .ok _ => closing (c.prepare remote request net)
  run.after [.create remote.family] 0

end Client

end Radius
