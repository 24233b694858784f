import Radius.Packet.Wire
import Radius.Simulator.Reply

/-!
# Datagrams at the simulator

`Simulator.receive` handles one datagram. It is counted; then it may be dropped; a datagram that
does not decode under the simulator's secret, and a packet that gets no answer, are ignored. A
reply is encoded, perhaps corrupted, counted and handed over to be sent to where the datagram came
from (`Dispatch`), at once or after the delay. Handling can fail, for instance on a reply that does
not fit a packet; what was counted before stays counted.
-/

namespace Radius

/-- The host and the port datagrams come from and go to. -/
structure Peer where
  host : String
  port : Nat
  deriving DecidableEq, Repr

/-- A reply on its way: when it is sent, in seconds from now, its bytes and where it goes. -/
structure Dispatch where
  delay : Binary64
  data : Bytes
  destination : Peer

/-- A datagram that has been handled. -/
structure Handled where
  simulator : Simulator
  sent : Option Dispatch
  chance : Chance
  error : Option PacketError

namespace Simulator

/-- A reply up to this size is never corrupted. -/
def smallestCorruptible : Nat := 10

/-- The reply with the ninth byte inverted, which is part of the authenticator. -/
def corrupt (data : Bytes) : Bytes := data.modify 8 (· ^^^ 0xff)

/-- The delay of a dispatch. Only a positive delay puts it off. -/
def dispatch (data : Bytes) (delay : Binary64) (destination : Peer) : Dispatch :=
  ⟨if delay.gtInt 0 then delay else .zero, data, destination⟩

/-- Hand over an encoded reply. -/
def send (s : Simulator) (data : Bytes) (destination : Peer) (chance : Chance) : Handled :=
  match s.faults.corrupted chance with
  | .error why => ⟨s, none, chance, some (.operand why)⟩
  | .ok (corrupted, chance) =>
    let data := if corrupted && smallestCorruptible < data.length then corrupt data else data
    let s := { s with counters := { s.counters with sent := s.counters.sent + 1 } }
    match s.faults.delaySeconds with
    | .error why => ⟨s, none, chance, some (.operand why)⟩
    | .ok delay => ⟨s, some (dispatch data delay destination), chance, none⟩

/-- Answer a datagram that is not dropped. -/
def answer (s : Simulator) (data : Value) (sender : Peer) (chance : Chance) : Handled :=
  match Packet.decode data s.secret .absent with
  | .error (.decode _) => ⟨s, none, chance, none⟩
  | .error why => ⟨s, none, chance, some why⟩
  | .ok request => match s.reply request noEntropy with
    | .error why => ⟨s, none, chance, some why⟩
    | .ok none => ⟨s, none, chance, none⟩
    | .ok (some packet) => match packet.encode with
      | .error why => ⟨s, none, chance, some why⟩
      | .ok wire => s.send wire sender chance

/-- Handle one datagram. -/
def receive (s : Simulator) (data : Value) (sender : Peer) (chance : Chance) : Handled :=
  let s := { s with counters := { s.counters with received := s.counters.received + 1 } }
  match s.faults.dropped chance with
  | .error why => ⟨s, none, chance, some (.operand why)⟩
  | .ok (true, chance) =>
    ⟨{ s with counters := { s.counters with dropped := s.counters.dropped + 1 } }, none, chance,
      none⟩
  | .ok (false, chance) => s.answer data sender chance

end Simulator

end Radius
