import Radius.Control.History
import Radius.Proofs.Simulator.Handling

/-!
# What requests write

A request writes something (`Request.write?`) if it is a reset, or a write of the faults or of the
secret whose body is accepted. The service after a request is the one before with what is written,
and the same if nothing is (`Service.handle_simulator`). A datagram changes nothing but what is
counted (`Service.step_datagram`). Faults that are written are those of an accepted body
(`Request.read_of_write?`), and can be drawn and timed (`Request.operable_of_write?`).
-/

namespace Radius.Control

/-- What a request changes. -/
inductive Write where
  | reset
  | faults (f : Faults)
  | secret (secret : Value)

/-- A simulator after a write. -/
def Write.apply (s : Simulator) : Write → Simulator
  | reset => s.reset
  | faults f => { s with faults := f }
  | secret v => { s with secret := v }

/-- The faults of an accepted body. -/
def FaultsBody.faults (b : FaultsBody) : Faults :=
  ⟨.integer b.delay, .real b.dropRate, .real b.corruptRate⟩

/-- The write of a request, if it is one and its body is accepted. -/
def Request.write? (r : Request) : Option Write :=
  match Resource.ofPath? r.path, r.method with
  | some .reset, .post => some .reset
  | some .faults, .post => match r.body.object.bind readFaults with
    | .ok b => some (.faults b.faults)
    | .error _ => none
  | some .secret, .post => match r.body.object.bind readSecret with
    | .ok secret => some (.secret (.bytes (Text.Utf8.encode secret.toList)))
    | .error _ => none
  | _, _ => none

/-- A simulator after a request. -/
def Request.apply (r : Request) (s : Simulator) : Simulator :=
  match r.write? with
  | none => s
  | some w => w.apply s

/-- A request changes the simulator by what it writes, and nothing else. -/
theorem Service.handle_simulator (service : Service) (r : Request) :
    (service.handle r).1 = { service with simulator := r.apply service.simulator } := by
  rw [handle, Request.apply, Request.write?]
  cases Resource.ofPath? r.path with
  | none => rfl
  | some resource =>
    cases resource with
    | health | status | reset => cases r.method <;> rfl
    | faults =>
      cases r.method with
      | get | other => rfl
      | post =>
        dsimp only
        rw [setFaults]
        cases r.body.object.bind readFaults <;> rfl
    | secret =>
      cases r.method with
      | get | other => rfl
      | post =>
        dsimp only
        rw [setSecret]
        cases r.body.object.bind readSecret <;> rfl

/-- A datagram changes the simulator by what is counted, and nothing else. -/
theorem Service.step_datagram (service : Service) (data : Bytes) (sender : Peer)
    (chance : Chance) : ∃ more, (service.step (.datagram data sender chance)).1 =
      { service with simulator := service.simulator.counting more } := by
  obtain ⟨more, hmore⟩ :=
    (Simulator.handles_receive service.simulator (.bytes data) sender chance).counting
  refine ⟨more, ?_⟩
  rw [← hmore]
  rfl

theorem Service.step_request (service : Service) (r : Request) :
    (service.step (.request r)).1 =
      { service with simulator := r.apply service.simulator } := service.handle_simulator r

/-! ## Faults that are written -/

/-- A delay is accepted if it stands for an integer of the range. -/
theorem delayOf_eq_ok_iff {input : Json} {n : Int} :
    delayOf input = .ok n ↔ integerOf input = .ok n ∧ 0 ≤ n ∧ n ≤ maxDelay := by
  rw [delayOf]
  cases integerOf input with
  | error kind => simp
  | ok m =>
    by_cases hlarge : (maxDelay : Int) < m
    · simp [hlarge]
      omega
    · by_cases hsmall : m < 0
      · simp [hlarge, hsmall]
        omega
      · simp [hlarge, hsmall]
        omega

/-- A field of an object counts as a value: as the default if there is no such field, and as what
its rule makes of it if there is one. -/
inductive FieldReads {α : Type} (object : Json) (name : String) (default : α)
    (rule : Json → Except IssueKind α) : α → Prop
  | omitted (h : object.field? name = none) : FieldReads object name default rule default
  | given {input : Json} {a : α} (h : object.field? name = some input)
      (hrule : rule input = .ok a) : FieldReads object name default rule a

theorem fieldOr_eq_ok_iff {α : Type} {object : Json} {name : String} {default a : α}
    {rule : Json → Except IssueKind α} :
    fieldOr object name default rule = .ok a ↔ FieldReads object name default rule a := by
  rw [fieldOr]
  constructor
  · intro h
    cases hfield : object.field? name with
    | none =>
      rw [hfield] at h
      exact Except.ok.inj h ▸ .omitted hfield
    | some input =>
      rw [hfield] at h
      exact .given hfield (mapError_eq_ok_iff.1 h)
  · rintro (hfield | ⟨hfield, hrule⟩)
    · rw [hfield]
    · rw [hfield]
      exact mapError_eq_ok_iff.2 hrule

/-- A property of a default and of what the rule reads is one of every field. -/
theorem FieldReads.of_rule {α : Type} {P : α → Prop} {object : Json} {name : String}
    {default a : α} {rule : Json → Except IssueKind α} (h : FieldReads object name default rule a)
    (hdefault : P default) (hrule : ∀ input a, rule input = .ok a → P a) : P a := by
  cases h with
  | omitted => exact hdefault
  | given _ h => exact hrule _ _ h

/-- A body is accepted with what its three fields are read as. -/
theorem readFaults_eq_ok_iff {body : Json} {b : FaultsBody} :
    readFaults body = .ok b ↔
      FieldReads body "delay_ms" 0 delayOf b.delay ∧
        FieldReads body "drop_rate" Binary64.zero rateOf b.dropRate ∧
        FieldReads body "corrupt_rate" Binary64.zero rateOf b.corruptRate := by
  rw [← fieldOr_eq_ok_iff, ← fieldOr_eq_ok_iff, ← fieldOr_eq_ok_iff, readFaults]
  cases fieldOr body "delay_ms" 0 delayOf with
  | error => simp
  | ok delay =>
    cases fieldOr body "drop_rate" Binary64.zero rateOf with
    | error => simp
    | ok drop =>
      cases fieldOr body "corrupt_rate" Binary64.zero rateOf with
      | error => simp
      | ok corrupt =>
        obtain ⟨d, p, q⟩ := b
        simp

/-- The delay of an accepted body is in the range. -/
theorem readFaults_delay {body : Json} {b : FaultsBody} (h : readFaults body = .ok b) :
    0 ≤ b.delay ∧ b.delay ≤ maxDelay :=
  (readFaults_eq_ok_iff.1 h).1.of_rule (P := fun n : Int => 0 ≤ n ∧ n ≤ maxDelay)
    ⟨by decide, by decide⟩ fun _ _ h => (delayOf_eq_ok_iff.1 h).2

theorem FaultsBody.operable {body : Json} {b : FaultsBody} (h : readFaults body = .ok b) :
    b.faults.Operable := by
  obtain ⟨hlow, hhigh⟩ := readFaults_delay h
  exact ⟨(Value.within_eq_true_iff rfl).2 ⟨_, rfl, hlow, hhigh⟩, rfl, rfl⟩

/-- Faults that are written are those of an accepted body. -/
theorem Request.read_of_write? {r : Request} {f : Faults} (h : r.write? = some (.faults f)) :
    ∃ body b, r.body.object = .ok body ∧ readFaults body = .ok b ∧ b.faults = f := by
  rw [write?] at h
  split at h
  · cases h
  · cases hbody : r.body.object.bind readFaults with
    | error _ => simp [hbody] at h
    | ok b =>
      rw [hbody] at h
      obtain ⟨body, hobject, hread⟩ := bind_eq_ok_iff.1 hbody
      cases h
      exact ⟨body, b, hobject, hread, rfl⟩
  · cases hbody : r.body.object.bind readSecret <;> simp [hbody] at h
  · cases h

/-- Faults that are written can be drawn and timed. -/
theorem Request.operable_of_write? {r : Request} {f : Faults} (h : r.write? = some (.faults f)) :
    f.Operable := by
  obtain ⟨body, b, -, hread, rfl⟩ := read_of_write? h
  exact FaultsBody.operable hread

end Radius.Control
