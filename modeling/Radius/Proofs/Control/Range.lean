import Radius.Proofs.Control.Writes
import Radius.Proofs.Number.Order

/-!
# The range of the faults

A body can ask for a delay or a rate in many ways: as a number of any kind, a truth value or a text,
of any size, and as a double that is infinite or not a number. What is accepted is in range all the
same: a rate is read exactly if it stands for a double from zero to one (`rateOf_eq_ok_iff`), a
delay exactly if it stands for an integer from 0 to 5000 (`delayOf_eq_ok_iff`), and a field that is
left out is zero (`FaultsBody.inRange`).

Faults in range are the invariant of a service: nothing but a write and a reset changes them
(`Service.inRange_step`), so they stay in range along every history (`Service.inRange_run`).
`Service.run_faults_range` : they are in range at every time since the start.
-/

namespace Radius

namespace Faults

/-- A rate from zero to one. -/
def IsRate (v : Value) : Prop :=
  ∃ x, v = .real x ∧ Binary64.zero.le x = true ∧ x.le Binary64.one = true

/-- A delay of at most five seconds. -/
def IsDelay (v : Value) : Prop := ∃ n, v = .integer n ∧ 0 ≤ n ∧ n ≤ 5000

/-- Faults whose fields are all in their ranges. -/
structure InRange (f : Faults) : Prop where
  delay : IsDelay f.delay
  dropRate : IsRate f.dropRate
  corruptRate : IsRate f.corruptRate

theorem isRate_real_iff {x : Binary64} :
    IsRate (.real x) ↔ Binary64.zero.le x = true ∧ x.le Binary64.one = true := by
  simp [IsRate]

/-- A rate is a number. -/
theorem IsRate.isNaN_eq_false {x : Binary64} (h : IsRate (.real x)) : x.isNaN = false :=
  (Binary64.le_cases (isRate_real_iff.1 h).1).2.1

theorem inRange_default : ({} : Faults).InRange where
  delay := ⟨0, rfl, by decide, by decide⟩
  dropRate := ⟨_, rfl, by decide +kernel, by decide +kernel⟩
  corruptRate := ⟨_, rfl, by decide +kernel, by decide +kernel⟩

end Faults

namespace Control

/-! ## Faults that are written -/

/-- A rate is accepted if it stands for a double of the range. -/
theorem rateOf_eq_ok_iff {input : Json} {x : Binary64} :
    rateOf input = .ok x ↔ realOf input = .ok x ∧ Faults.IsRate (.real x) := by
  rw [rateOf, Faults.isRate_real_iff]
  cases realOf input with
  | error kind => simp
  | ok y =>
    cases hhigh : y.le .one <;> cases hlow : Binary64.zero.le y <;> simp [hhigh, hlow]
    all_goals grind

example : rateOf (.string "nan") = .error (.tooLarge 1) := by rfl

/-- The faults of an accepted body are in range. -/
theorem FaultsBody.inRange {body : Json} {b : FaultsBody} (h : readFaults body = .ok b) :
    b.faults.InRange := by
  have hrate {name : String} {x : Binary64} (hx : FieldReads body name Binary64.zero rateOf x) :
      Faults.IsRate (.real x) :=
    hx.of_rule (P := fun x => Faults.IsRate (.real x)) Faults.inRange_default.dropRate
      fun _ _ h => (rateOf_eq_ok_iff.1 h).2
  obtain ⟨-, hdrop, hcorrupt⟩ := readFaults_eq_ok_iff.1 h
  exact ⟨⟨b.delay, rfl, readFaults_delay h⟩, hrate hdrop, hrate hcorrupt⟩

/-- Faults that are written are in range. -/
theorem Request.inRange_of_write? {r : Request} {f : Faults} (h : r.write? = some (.faults f)) :
    f.InRange := by
  obtain ⟨body, b, -, hread, rfl⟩ := read_of_write? h
  exact FaultsBody.inRange hread

/-! ## Faults in force -/

namespace Service

/-- Whatever an event is, faults in range stay in range. -/
theorem inRange_step {service : Service} (h : service.simulator.faults.InRange) (event : Event) :
    (service.step event).1.simulator.faults.InRange := by
  cases event with
  | datagram data sender chance =>
    obtain ⟨more, hmore⟩ := service.step_datagram data sender chance
    rw [hmore]
    exact h
  | request r =>
    rw [step_request]
    dsimp only
    rw [Request.apply]
    cases hwrite : r.write? with
    | none => exact h
    | some w =>
      cases w with
      | reset => exact Faults.inRange_default
      | faults f => exact r.inRange_of_write? hwrite
      | secret v => exact h

theorem inRange_run {service : Service} (h : service.simulator.faults.InRange)
    (events : List Event) : (service.run events).1.simulator.faults.InRange := by
  induction events generalizing service with
  | nil => exact h
  | cons event rest ih => exact ih (inRange_step h event)

/-- Whatever has reached a service since its start, the faults in force are in range, and each rate
is a number. -/
theorem run_faults_range (initial : Value) (users : List (String × Value))
    (address : Option (String × Int)) (events : List Event) :
    let f := ((Service.mk (Simulator.start initial users {}) address).run events).1.simulator.faults
    f.InRange ∧ ∀ x, f.dropRate = .real x ∨ f.corruptRate = .real x → x.isNaN = false := by
  intro f
  have hrange : f.InRange := inRange_run Faults.inRange_default events
  refine ⟨hrange, ?_⟩
  rintro x (hdrop | hcorrupt)
  · exact Faults.IsRate.isNaN_eq_false (hdrop ▸ hrange.dropRate)
  · exact Faults.IsRate.isNaN_eq_false (hcorrupt ▸ hrange.corruptRate)

end Service

end Control

end Radius
