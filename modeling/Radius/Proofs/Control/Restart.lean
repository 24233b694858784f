import Radius.Proofs.Control.Writes

/-!
# A reset starts anew

The count of resets is told in answers and never looked at. So a simulator that has been reset more
often (`Simulator.withResets`) does the same about every datagram
(`Simulator.receive_withResets`), and gives the same answer to every request but for the count in it
(`Service.handle_withResets`); this is a bisimulation of services, and `Service.run_withResets`
follows it through a whole history.

What a reset leaves of a simulator is its start, with as many resets more as there have been
(`Service.reset_run`) : no event changes the default secret or the users.

`Service.run_after_reset` : after any history that ends with a reset, a service goes on as a new one
does, and only tells a larger count of resets.
-/

namespace Radius

/-! ## More resets -/

/-- A simulator that has been reset `n` more times. -/
def Simulator.withResets (n : Nat) (s : Simulator) : Simulator :=
  { s with resetCount := s.resetCount + n }

/-- A datagram handled by a simulator that has been reset `n` more times. -/
def Handled.withResets (n : Nat) (h : Handled) : Handled :=
  { h with simulator := h.simulator.withResets n }

/-- An object whose count of resets is larger by `n`, if it tells one. Nothing else is changed. -/
def Json.withResets (n : Nat) : Json → Json
  | .object fields => .object (fields.map fun
      | ("reset_count", .integer m) => ("reset_count", .integer (m + n))
      | field => field)
  | v => v

theorem Json.hasText_withResets (n : Nat) (body : Json) :
    (body.withResets n).hasText = body.hasText := by
  cases body with
  | object fields =>
    rw [withResets, hasText, hasText]
    induction fields with
    | nil => rfl
    | cons field rest ih =>
      rw [List.map_cons, fieldsHaveText, fieldsHaveText, ih]
      congr 1
      split <;> rfl
  | _ => rfl

/-! ## Datagrams -/

namespace Simulator

variable (n : Nat) (s : Simulator)

theorem send_withResets (wire : Bytes) (sender : Peer) (chance : Chance) :
    (s.withResets n).send wire sender chance = (s.send wire sender chance).withResets n := by
  have hfaults : (s.withResets n).faults = s.faults := rfl
  rw [send, send, hfaults]
  cases s.faults.corrupted chance with
  | error => rfl
  | ok drawn =>
    dsimp only [withResets]
    cases s.faults.delaySeconds <;> rfl

theorem answer_withResets (data : Value) (sender : Peer) (chance : Chance) :
    (s.withResets n).answer data sender chance = (s.answer data sender chance).withResets n := by
  have hreply : (s.withResets n).replyTo = s.replyTo := rfl
  rw [answer_eq, answer_eq, hreply]
  cases s.replyTo data with
  | error => rfl
  | ok reply =>
    cases reply with
    | none => rfl
    | some wire => exact send_withResets n s wire sender chance

/-- The count of resets does not matter to a datagram : the same is sent, with the same random
numbers, and the same is counted. -/
theorem receive_withResets (data : Value) (sender : Peer) (chance : Chance) :
    (s.withResets n).receive data sender chance =
      (s.receive data sender chance).withResets n := by
  have hfaults : (s.withResets n).faults = s.faults := rfl
  rw [receive, receive]
  dsimp only
  rw [hfaults]
  cases s.faults.dropped chance with
  | error => rfl
  | ok drawn =>
    obtain ⟨dropped, kept⟩ := drawn
    cases dropped with
    | true => rfl
    | false => exact answer_withResets n (s.counting { received := 1 }) data sender kept

end Simulator

namespace Control

/-- A service whose simulator has been reset `n` more times. -/
def Service.withResets (n : Nat) (service : Service) : Service :=
  { service with simulator := service.simulator.withResets n }

/-- An answer whose count of resets is larger by `n`, if it tells one. -/
def Answer.withResets (n : Nat) : Answer → Answer
  | .json status body => .json status (body.withResets n)
  | answer => answer

/-- What a service does about an event, with a count of resets that is larger by `n` where the
answer tells one. -/
def Reaction.withResets (n : Nat) : Reaction → Reaction
  | .answered answer => .answered (answer.withResets n)
  | .handled sent error => .handled sent error

namespace Service

/-! ## Requests -/

theorem succeed_withResets (n : Nat) (body : Json) :
    succeed (body.withResets n) = (succeed body).withResets n := by
  rw [succeed, succeed, Json.hasText_withResets]
  cases body.hasText <;> rfl

theorem refuse_withResets (n : Nat) (why : Refusal) :
    (refuse why).withResets n = refuse why := by
  cases why with
  | unreadable => rfl
  | issues list =>
    rw [refuse]
    split <;> rfl

section Handling

variable (n : Nat) (service : Service)

theorem withResets_withResets (m : Nat) :
    (service.withResets m).withResets n = service.withResets (m + n) := by
  simp only [withResets, Simulator.withResets, Nat.add_assoc]

theorem statusJson_withResets :
    (service.withResets n).statusJson = service.statusJson.withResets n := by
  simp [statusJson, withResets, Simulator.withResets, Json.withResets]

theorem reset_withResets :
    (service.withResets n).reset =
      (service.reset.1.withResets n, service.reset.2.withResets n) := by
  have hreset : (service.simulator.withResets n).reset = service.simulator.reset.withResets n := by
    simp only [Simulator.reset, Simulator.withResets, Nat.add_right_comm]
  rw [reset, reset, withResets]
  dsimp only
  rw [hreset, ← succeed_withResets]
  simp [Json.withResets, Simulator.withResets, withResets]

theorem setFaults_withResets (body : Body) :
    (service.withResets n).setFaults body =
      ((service.setFaults body).1.withResets n, (service.setFaults body).2.withResets n) := by
  rw [setFaults, setFaults]
  cases body.object.bind readFaults with
  | error issues => exact congrArg (Prod.mk _) (refuse_withResets n issues).symm
  | ok b =>
    dsimp only
    rw [← succeed_withResets]
    rfl

theorem setSecret_withResets (body : Body) :
    (service.withResets n).setSecret body =
      ((service.setSecret body).1.withResets n, (service.setSecret body).2.withResets n) := by
  rw [setSecret, setSecret]
  cases body.object.bind readSecret with
  | error issues => exact congrArg (Prod.mk _) (refuse_withResets n issues).symm
  | ok secret =>
    dsimp only
    rw [← succeed_withResets]
    rfl

/-- The count of resets does not matter to a request, except that the answer may tell it. -/
theorem handle_withResets (r : Request) :
    (service.withResets n).handle r =
      ((service.handle r).1.withResets n, (service.handle r).2.withResets n) := by
  rw [handle, handle]
  cases Resource.ofPath? r.path with
  | none => rfl
  | some resource =>
    cases resource with
    | health => cases r.method <;> rfl
    | status =>
      cases r.method with
      | get =>
        dsimp only
        rw [statusJson_withResets, succeed_withResets]
      | post | other => rfl
    | reset =>
      cases r.method with
      | post => exact reset_withResets n service
      | get | other => rfl
    | faults =>
      cases r.method with
      | get =>
        dsimp only
        rw [← succeed_withResets]
        rfl
      | post => exact setFaults_withResets n service r.body
      | other => rfl
    | secret =>
      cases r.method with
      | post => exact setSecret_withResets n service r.body
      | get | other => rfl

/-! ## Histories -/

theorem step_withResets (event : Event) :
    (service.withResets n).step event =
      ((service.step event).1.withResets n, (service.step event).2.withResets n) := by
  cases event with
  | datagram data sender chance =>
    have h := service.simulator.receive_withResets n (.bytes data) sender chance
    rw [step, step, receive, receive]
    dsimp only [withResets]
    rw [h]
    rfl
  | request r =>
    rw [step, step, handle_withResets]
    rfl

/-- Services that differ in the count of resets alone go through every history alike. -/
theorem run_withResets (events : List Event) :
    (service.withResets n).run events =
      ((service.run events).1.withResets n, (service.run events).2.map (.withResets n)) := by
  induction events generalizing service with
  | nil => rfl
  | cons event rest ih =>
    rw [run, run, step_withResets]
    dsimp only
    rw [ih]
    rfl

end Handling

end Service

/-! ## Resets -/

/-- Whether an event is a request that resets the simulator. -/
def Event.isReset : Event → Bool
  | .request r => match r.write? with
    | some .reset => true
    | _ => false
  | .datagram .. => false

namespace Service

variable (service : Service)

/-- A reset undoes an event, except that it counts one more if that was a reset. -/
theorem reset_step (event : Event) :
    (service.step event).1.reset.1 = service.reset.1.withResets event.isReset.toNat := by
  cases event with
  | datagram data sender chance =>
    obtain ⟨more, hmore⟩ := service.step_datagram data sender chance
    rw [hmore]
    rfl
  | request r =>
    rw [step_request, Request.apply, Event.isReset]
    cases r.write? with
    | none => rfl
    | some w => cases w <;> rfl

/-- What a reset leaves of a service depends on the history before it by the number of resets
alone. -/
theorem reset_run (events : List Event) :
    (service.run events).1.reset.1 =
      service.reset.1.withResets (events.countP Event.isReset) := by
  induction events generalizing service with
  | nil => rfl
  | cons event rest ih =>
    rw [run, List.countP_cons]
    dsimp only
    rw [ih, reset_step, withResets_withResets]
    congr 1
    cases event.isReset <;> simp [Nat.add_comm]

theorem run_reset {r : Request} (hr : r.write? = some .reset) (events : List Event) :
    (service.run (events ++ [.request r])).1 =
      service.reset.1.withResets (events.countP Event.isReset) := by
  have hlast (last : Service) : (last.step (.request r)).1 = last.reset.1 := by
    rw [step_request, Request.apply, hr]
    rfl
  rw [run_append, ← reset_run, ← hlast]
  rfl

/-- After any history that ends with a reset, a service does the same about everything that comes as
a new one with the same default secret and users does : the same datagrams are sent and the same
answers are given, except that every count of resets they tell is larger by the number of resets in
the history, the last one included. -/
theorem run_after_reset (initial : Value) (users : List (String × Value)) (faults : Faults)
    (address : Option (String × Int)) (past future : List Event) {r : Request}
    (hr : r.write? = some .reset) :
    ((Service.mk (Simulator.start initial users faults) address).run
        (past ++ [.request r])).1.run future =
      (((Service.mk (Simulator.start initial users {}) address).run future).1.withResets
          (past.countP Event.isReset + 1),
        ((Service.mk (Simulator.start initial users {}) address).run future).2.map
          (.withResets (past.countP Event.isReset + 1))) := by
  have hstart : (Service.mk (Simulator.start initial users faults) address).reset.1 =
      (Service.mk (Simulator.start initial users {}) address).withResets 1 := rfl
  rw [run_reset _ hr, hstart, withResets_withResets, Nat.add_comm, run_withResets]

/-- The request for a reset. -/
def resetRequest : Request := ⟨.post, "/control/reset", .empty⟩

/-- The request for the status. -/
def statusRequest : Request := ⟨.get, "/status", .empty⟩

/-- A reset, a datagram, and faults and a secret that are not those of the start. -/
def unsettled : List Event :=
  [.request resetRequest, .datagram [12, 5] ⟨"192.0.2.7", 40000⟩ ⟨[], 0⟩,
    .request ⟨.post, "/control/faults", .json (.object [("delay_ms", .string "5")])⟩,
    .request ⟨.post, "/control/secret", .json (.object [("secret", .string "other")])⟩]

theorem run_after_reset_unsettled :
    resetRequest.write? = some .reset ∧ unsettled.countP Event.isReset = 1 ∧
      ∃ body,
        (((Service.mk (Simulator.start Simulator.standardSecret Simulator.standardUsers {})
            none).run (unsettled ++ [.request resetRequest])).1.run
              [.request statusRequest]).2 = [.answered (.json 200 body)] ∧
          body.field? "reset_count" = some (.integer 2) ∧
          body.field? "counters" = some (countersJson {}) ∧
          body.field? "faults" = some (faultsJson {}) := by
  have hr : resetRequest.write? = some .reset := rfl
  have hcount : unsettled.countP Event.isReset = 1 := by decide +kernel
  have h := run_after_reset Simulator.standardSecret Simulator.standardUsers {} none unsettled
    [.request statusRequest] hr
  rw [hcount] at h
  exact ⟨hr, hcount, _, congrArg Prod.snd h, rfl, rfl, rfl⟩

end Service

end Control

end Radius
