import Radius.Proofs.Simulator.Faults
import Radius.Proofs.Simulator.Receive

/-!
# How a datagram is handled

What a simulator answers to a datagram that is not dropped is `Simulator.replyTo`, the wire form of
its reply; it does not depend on what has been counted. `Simulator.Handles` lists the ways in which
a datagram can be handled, each with what is counted, sent and reported, and how far the random
numbers are used up. Every datagram is handled in one of them (`Simulator.handles_receive`). Those
that have nothing to do with faults of the wrong kinds are `Simulator.Settles`
(`Simulator.settles_receive`).
-/

namespace Radius.Simulator

/-- The wire form of the reply to a datagram, if it gets one. -/
def replyTo (s : Simulator) (data : Value) : Except PacketError (Option Bytes) :=
  match Packet.decode data s.secret .absent with
  | .error (.decode _) => .ok none
  | .error why => .error why
  | .ok request => do
    match ← s.reply request noEntropy with
    | none => return none
    | some packet => return some (← packet.encode)

/-- A simulator that has counted more. -/
def counting (s : Simulator) (more : Counters) : Simulator :=
  { s with counters := ⟨s.counters.received + more.received, s.counters.sent + more.sent,
      s.counters.dropped + more.dropped⟩ }

theorem counting_counting (s : Simulator) (c d : Counters) :
    (s.counting c).counting d =
      s.counting ⟨c.received + d.received, c.sent + d.sent, c.dropped + d.dropped⟩ := by
  simp only [counting, Nat.add_assoc]

@[simp] theorem faults_counting (s : Simulator) (c : Counters) :
    (s.counting c).faults = s.faults := rfl

@[simp] theorem replyTo_counting (s : Simulator) (c : Counters) :
    (s.counting c).replyTo = s.replyTo := rfl

variable {s : Simulator} {data : Value} {sender : Peer} {chance : Chance}

theorem answer_eq :
    s.answer data sender chance =
      match s.replyTo data with
      | .error why => ⟨s, none, chance, some why⟩
      | .ok none => ⟨s, none, chance, none⟩
      | .ok (some wire) => s.send wire sender chance := by
  rw [answer, replyTo]
  cases Packet.decode data s.secret .absent with
  | error why => cases why <;> rfl
  | ok request =>
    dsimp only
    cases s.reply request noEntropy with
    | error why => rfl
    | ok reply =>
      cases reply with
      | none => rfl
      | some packet =>
        dsimp only [ok_bind]
        cases packet.encode with
        | error why => rfl
        | ok wire => rfl

/-- The ways in which a datagram is handled if faults can be drawn and timed. -/
inductive Settles (s : Simulator) (data : Value) (sender : Peer) (chance : Chance) :
    Handled → Prop
  | dropped {rest : Chance} (h : s.faults.dropped chance = .ok (true, rest)) :
      Settles s data sender chance
        ⟨s.counting { received := 1, dropped := 1 }, none, rest, none⟩
  /-- It cannot be answered. -/
  | failed {kept : Chance} {why : PacketError} (hkept : s.faults.dropped chance = .ok (false, kept))
      (h : s.replyTo data = .error why) :
      Settles s data sender chance ⟨s.counting { received := 1 }, none, kept, some why⟩
  /-- It gets no answer. -/
  | ignored {kept : Chance} (hkept : s.faults.dropped chance = .ok (false, kept))
      (h : s.replyTo data = .ok none) :
      Settles s data sender chance ⟨s.counting { received := 1 }, none, kept, none⟩
  | sent {kept rest : Chance} {wire : Bytes} {corrupted : Bool} {delay : Binary64}
      (hkept : s.faults.dropped chance = .ok (false, kept))
      (hreply : s.replyTo data = .ok (some wire))
      (hdrawn : s.faults.corrupted kept = .ok (corrupted, rest))
      (hdelay : s.faults.delaySeconds = .ok delay) :
      Settles s data sender chance
        ⟨s.counting { received := 1, sent := 1 },
          some (dispatch (transmitted wire corrupted) delay sender), rest, none⟩

/-- The ways in which a datagram is handled. -/
inductive Handles (s : Simulator) (data : Value) (sender : Peer) (chance : Chance) :
    Handled → Prop
  | settled {handled : Handled} (h : s.Settles data sender chance handled) :
      Handles s data sender chance handled
  /-- Whether it is dropped cannot be drawn. -/
  | undrawn {why : OperandError} (h : s.faults.dropped chance = .error why) :
      Handles s data sender chance
        ⟨s.counting { received := 1 }, none, chance, some (.operand why)⟩
  /-- Whether the reply is corrupted cannot be drawn. -/
  | uncorrupted {kept : Chance} {wire : Bytes} {why : OperandError}
      (hkept : s.faults.dropped chance = .ok (false, kept))
      (hreply : s.replyTo data = .ok (some wire))
      (h : s.faults.corrupted kept = .error why) :
      Handles s data sender chance
        ⟨s.counting { received := 1 }, none, kept, some (.operand why)⟩
  /-- The reply has no delay that could be taken in seconds. It is counted before that shows. -/
  | untimed {kept rest : Chance} {wire : Bytes} {corrupted : Bool} {why : OperandError}
      (hkept : s.faults.dropped chance = .ok (false, kept))
      (hreply : s.replyTo data = .ok (some wire))
      (hdrawn : s.faults.corrupted kept = .ok (corrupted, rest))
      (h : s.faults.delaySeconds = .error why) :
      Handles s data sender chance
        ⟨s.counting { received := 1, sent := 1 }, none, rest, some (.operand why)⟩

/-- Every datagram is handled in one of these ways. -/
theorem handles_receive (s : Simulator) (data : Value) (sender : Peer) (chance : Chance) :
    Handles s data sender chance (s.receive data sender chance) := by
  rw [receive]
  dsimp only
  cases hdropped : s.faults.dropped chance with
  | error why => exact .undrawn hdropped
  | ok drawn =>
    obtain ⟨dropped, kept⟩ := drawn
    cases dropped with
    | true => exact .settled (.dropped hdropped)
    | false =>
      change Handles s data sender chance
        ((s.counting { received := 1 }).answer data sender kept)
      rw [answer_eq, replyTo_counting]
      cases hreply : s.replyTo data with
      | error why => exact .settled (.failed hdropped hreply)
      | ok reply =>
        cases reply with
        | none => exact .settled (.ignored hdropped hreply)
        | some wire =>
          dsimp only
          rw [send, faults_counting]
          cases hcorrupted : s.faults.corrupted kept with
          | error why => exact .uncorrupted hdropped hreply hcorrupted
          | ok drawn =>
            dsimp only
            cases hdelay : s.faults.delaySeconds with
            | error why => exact .untimed hdropped hreply hcorrupted hdelay
            | ok delay => exact .settled (.sent hdropped hreply hcorrupted hdelay)

/-- A datagram changes nothing but what is counted. -/
theorem Handles.counting {handled : Handled} (h : s.Handles data sender chance handled) :
    ∃ more, handled.simulator = s.counting more := by
  cases h with
  | settled h => cases h <;> exact ⟨_, rfl⟩
  | undrawn | uncorrupted | untimed => exact ⟨_, rfl⟩

theorem Handles.settles (hf : s.faults.Operable) {handled : Handled}
    (h : s.Handles data sender chance handled) : s.Settles data sender chance handled := by
  cases h with
  | settled h => exact h
  | undrawn h =>
    obtain ⟨_, _, hdrawn⟩ := Faults.occurs_of_isNumeric hf.dropRate chance
    cases hdrawn.symm.trans h
  | @uncorrupted kept _ _ _ _ h =>
    obtain ⟨_, _, hdrawn⟩ := Faults.occurs_of_isNumeric hf.corruptRate kept
    cases hdrawn.symm.trans h
  | untimed _ _ _ h =>
    obtain ⟨_, hdelay⟩ := hf.delaySeconds
    cases hdelay.symm.trans h

/-- Every datagram is dropped, answered, ignored or fails to be answered, if faults can be drawn and
timed. -/
theorem settles_receive (hf : s.faults.Operable) (data : Value) (sender : Peer) (chance : Chance) :
    s.Settles data sender chance (s.receive data sender chance) :=
  (handles_receive s data sender chance).settles hf

/-! ## What comes of a datagram -/

section Settled

variable {handled : Handled} (h : s.Settles data sender chance handled)
include h

/-- Handling fails exactly with what the answer fails with, if the datagram is not dropped. -/
theorem Settles.error_iff {why : PacketError} :
    handled.error = some why ↔
      ∃ kept, s.faults.dropped chance = .ok (false, kept) ∧ s.replyTo data = .error why := by
  cases h with
  | dropped h => simp [h]
  | failed hkept h => simp [hkept, h]
  | ignored _ h => simp [h]
  | sent _ hreply => simp [hreply]

/-- Nothing is sent for a datagram that cannot be handled. -/
theorem Settles.sent_of_error {why : PacketError} (herror : handled.error = some why) :
    handled.sent = none := by
  cases h with
  | dropped | failed | ignored => rfl
  | sent => cases herror

theorem Settles.of_dropped {rest : Chance} (hdrop : s.faults.dropped chance = .ok (true, rest)) :
    handled.sent = none ∧ handled.error = none := by
  cases h with
  | dropped => exact ⟨rfl, rfl⟩
  | failed hkept | ignored hkept | sent hkept => cases hdrop.symm.trans hkept

theorem Settles.of_ignored (hreply : s.replyTo data = .ok none) :
    handled.sent = none ∧ handled.error = none := by
  cases h with
  | dropped | ignored => exact ⟨rfl, rfl⟩
  | failed _ h | sent _ h => cases hreply.symm.trans h

theorem Settles.of_answered {kept : Chance} {wire : Bytes}
    (hkept : s.faults.dropped chance = .ok (false, kept))
    (hreply : s.replyTo data = .ok (some wire)) :
    ∃ corrupted rest delay, s.faults.corrupted kept = .ok (corrupted, rest) ∧
      s.faults.delaySeconds = .ok delay ∧
      handled.sent = some (dispatch (transmitted wire corrupted) delay sender) ∧
      handled.error = none := by
  cases h with
  | dropped hdrop => cases hkept.symm.trans hdrop
  | failed _ h | ignored _ h => cases hreply.symm.trans h
  | sent hsame h hdrawn hdelay =>
    cases hkept.symm.trans hsame
    cases hreply.symm.trans h
    exact ⟨_, _, _, hdrawn, hdelay, rfl, rfl⟩

end Settled

end Radius.Simulator
