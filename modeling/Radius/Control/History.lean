import Radius.Control.Service

/-!
# Histories of a service

Datagrams and requests reach a service one at a time. `Service.step` gives the service after one
of them together with what it does about it, and `Service.run` does so for a whole history.

`run_append` : a history runs part by part.
-/

namespace Radius.Control

/-- What reaches a service. -/
inductive Event where
  | datagram (data : Bytes) (sender : Peer) (chance : Chance)
  | request (r : Request)

/-- What a service does about an event. -/
inductive Reaction where
  /-- A datagram is handled: a reply is sent or not, and handling may have failed. -/
  | handled (sent : Option Dispatch) (error : Option PacketError)
  | answered (answer : Answer)

namespace Service

/-- The service after an event, and what it does about it. -/
def step (service : Service) : Event → Service × Reaction
  | .datagram data sender chance =>
    let (service, h) := service.receive (.bytes data) sender chance
    (service, .handled h.sent h.error)
  | .request r =>
    let (service, answer) := service.handle r
    (service, .answered answer)

/-- The service after a history, and what it does about each event in order. -/
def run (service : Service) : List Event → Service × List Reaction
  | [] => (service, [])
  | event :: rest =>
    let (service, reaction) := service.step event
    let (service, reactions) := service.run rest
    (service, reaction :: reactions)

theorem run_append (service : Service) (past future : List Event) :
    service.run (past ++ future) =
      (((service.run past).1.run future).1,
        (service.run past).2 ++ ((service.run past).1.run future).2) := by
  induction past generalizing service with
  | nil => rfl
  | cons event rest ih => simp only [List.cons_append, run, ih]

end Service

end Radius.Control
