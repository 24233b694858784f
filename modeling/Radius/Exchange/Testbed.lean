import Radius.Exchange
import Radius.Simulator.Receive

/-!
# Exchanges with a simulator

A testbed joins a client to a simulator: the datagram a client sends is handled by the simulator,
and what the client receives is the simulator's reply, after its delay. Waiting for a simulator
always suspends, and a request without a reply is waited for without end. The simulator has
handled the datagram once the client starts to receive. The client's own address is the `sender` of
what it sends.
-/

namespace Radius.Testbed

/-- The receiving side of a network that a handled datagram makes. -/
def operationOf (h : Handled) : Operation Bytes :=
  match h.sent with
  | none => ⟨.forever, .ok []⟩
  | some d => if d.delay.isFinite then ⟨.suspended d.delay.toRat, .ok d.data⟩
    else ⟨.forever, .ok []⟩

/-- The network whose other end is a simulator. -/
def networkTo (s : Simulator) (sender : Peer) (chance : Chance) (net : Network) : Network :=
  { net with receive := fun data => operationOf (s.receive (.bytes data) sender chance) }

/-- The datagram that reached the other end: the one sent, if receiving began. -/
def delivered (trace : List Effect) : Option Bytes :=
  let begun := trace.any fun
    | .receive _ => true
    | _ => false
  if begun then
    trace.findSome? fun
      | .send data => some data
      | _ => none
  else none

/-- An exchange with a simulator, and the datagram as the simulator handled it. -/
def exchange (c : Client) (remote : Endpoint) (request : Packet) (net : Network) (s : Simulator)
    (sender : Peer) (chance : Chance) : Run × Option Handled :=
  let run := c.exchange remote request (networkTo s sender chance net)
  (run, (delivered run.trace).map fun data => s.receive (.bytes data) sender chance)

/-- A duration in whole milliseconds, a half to the even neighbour. -/
def milliseconds (seconds : Rat) : Nat :=
  Binary64.roundHalfEven ((seconds * 1000).num.toNat) (seconds * 1000).den

end Radius.Testbed
