import Radius.Proofs.Simulator.Faults
import Radius.Proofs.Simulator.Handling

/-!
# Datagrams do not influence each other

`Simulator.receiveAll` handles datagrams one after the other. If the simulator neither drops nor
corrupts anything, what comes of a datagram (`Upshot`) depends on nothing that happened before
(`Simulator.receive_faultless`) : handling one changes the counts alone, and these are not looked
at. So the counts are the same in every order, and so is what comes of each datagram; no random
number is taken (`Simulator.order_irrelevant`).
-/

namespace Radius

/-- What comes of a datagram that has been handled. -/
structure Upshot where
  sent : Option Dispatch
  error : Option PacketError

/-- What comes of a datagram, without the simulator that is left. -/
def Handled.upshot (h : Handled) : Upshot := ⟨h.sent, h.error⟩

namespace Simulator

/-- Handle datagrams one after the other, with the random numbers that the ones before left. -/
def receiveAll (s : Simulator) (chance : Chance) :
    List (Value × Peer) → Simulator × Chance × List Upshot
  | [] => (s, chance, [])
  | (data, sender) :: rest =>
    let h := s.receive data sender chance
    let (s, chance, upshots) := h.simulator.receiveAll h.chance rest
    (s, chance, h.upshot :: upshots)

/-! ## One datagram -/

/-- Whether a datagram gets a reply that has a wire form. -/
def isAnswered (s : Simulator) (data : Value) : Bool :=
  match s.replyTo data with
  | .ok (some _) => true
  | _ => false

/-- What comes of a datagram that is not dropped and whose reply is not corrupted. -/
def faultless (s : Simulator) (data : Value) (sender : Peer) : Upshot :=
  match s.replyTo data with
  | .error why => ⟨none, some why⟩
  | .ok none => ⟨none, none⟩
  | .ok (some wire) => match s.faults.delaySeconds with
    | .error why => ⟨none, some (.operand why)⟩
    | .ok delay => ⟨some (dispatch wire delay sender), none⟩

section Faultless

variable {s : Simulator} (hdrop : s.faults.dropRate.isNumber 0 = true)
  (hcorrupt : s.faults.corruptRate.isNumber 0 = true)
include hdrop hcorrupt

theorem Handles.faultless {data : Value} {sender : Peer} {chance : Chance} {handled : Handled}
    (h : s.Handles data sender chance handled) :
    handled = ⟨s.counting ⟨1, (s.isAnswered data).toNat, 0⟩, (s.faultless data sender).sent, chance,
      (s.faultless data sender).error⟩ := by
  have hkept : s.faults.dropped chance = .ok (false, chance) :=
    Faults.occurs_of_isNumber_zero hdrop chance
  have hwhole : s.faults.corrupted chance = .ok (false, chance) :=
    Faults.occurs_of_isNumber_zero hcorrupt chance
  rw [isAnswered, Simulator.faultless]
  cases h with
  | settled h =>
    cases h with
    | dropped h => cases hkept.symm.trans h
    | failed hdropped h | ignored hdropped h =>
      cases hkept.symm.trans hdropped
      rw [h]
      rfl
    | sent hdropped hreply hdrawn hdelay =>
      cases hkept.symm.trans hdropped
      cases hwhole.symm.trans hdrawn
      rw [hreply]
      dsimp only
      rw [hdelay]
      rfl
  | undrawn h => cases hkept.symm.trans h
  | uncorrupted hdropped hreply h =>
    cases hkept.symm.trans hdropped
    cases hwhole.symm.trans h
  | untimed hdropped hreply hdrawn h =>
    cases hkept.symm.trans hdropped
    cases hwhole.symm.trans hdrawn
    rw [hreply]
    dsimp only
    rw [h]
    rfl

/-- A datagram at a simulator without these faults. What comes of it does not depend on the counts,
and only the counts change. -/
theorem receive_faultless (data : Value) (sender : Peer) (chance : Chance) :
    s.receive data sender chance =
      ⟨s.counting ⟨1, (s.isAnswered data).toNat, 0⟩, (s.faultless data sender).sent, chance,
        (s.faultless data sender).error⟩ :=
  (handles_receive s data sender chance).faultless hdrop hcorrupt

theorem upshot_receive (data : Value) (sender : Peer) (chance : Chance) :
    (s.receive data sender chance).upshot = s.faultless data sender := by
  rw [receive_faultless hdrop hcorrupt]
  rfl

/-! ## Many datagrams -/

/-- Of datagrams that are handled one after the other comes what comes of each alone, and they are
counted together. -/
theorem receiveAll_faultless (arrivals : List (Value × Peer)) (chance : Chance) :
    s.receiveAll chance arrivals =
      (s.counting ⟨arrivals.length, arrivals.countP fun d => s.isAnswered d.1, 0⟩, chance,
        arrivals.map fun d => s.faultless d.1 d.2) := by
  induction arrivals generalizing s with
  | nil => rfl
  | cons d rest ih =>
    obtain ⟨data, sender⟩ := d
    -- The state after the first datagram has other counts, and nothing else differs.
    have hrest := @ih (s.counting ⟨1, (s.isAnswered data).toNat, 0⟩) hdrop hcorrupt
    have hanswered : (s.isAnswered data).toNat + rest.countP (fun d => s.isAnswered d.1) =
        rest.countP (fun d => s.isAnswered d.1) + if s.isAnswered data then 1 else 0 := by
      cases s.isAnswered data with
      | true => exact Nat.add_comm ..
      | false => exact Nat.add_comm ..
    rw [receiveAll, receive_faultless hdrop hcorrupt]
    dsimp only
    rw [hrest, counting_counting, List.length_cons, List.countP_cons, List.map_cons,
      Nat.add_comm rest.length, ← hanswered]
    rfl

/-- Datagrams at a simulator that drops and corrupts nothing : in every order they leave the same
simulator, which has only counted more, and of each comes what comes of it alone, whatever the
random numbers are. None of these is taken. -/
theorem order_irrelevant (arrivals : List (Value × Peer)) :
    ∃ more, ∀ order, order.Perm arrivals → ∀ chance other,
      s.receiveAll chance order =
        (s.counting more, chance, order.map fun d => (s.receive d.1 d.2 other).upshot) := by
  refine ⟨⟨arrivals.length, arrivals.countP fun d => s.isAnswered d.1, 0⟩,
    fun order horder chance other => ?_⟩
  rw [receiveAll_faultless hdrop hcorrupt, horder.length_eq, horder.countP_eq]
  simp only [upshot_receive hdrop hcorrupt]

end Faultless

/-- A simulator that only delays its replies. -/
def delaying : Simulator := start standardSecret standardUsers { delay := .integer 5 }

/-- A request for the status, a datagram that does not decode, and the request from elsewhere. -/
def visits : List (Value × Peer) :=
  [(.bytes ([12, 5, 0, 20] ++ Bytes.zeros authenticatorSize), ⟨"192.0.2.7", 40000⟩),
    (.bytes [12, 5], ⟨"192.0.2.7", 40000⟩),
    (.bytes ([12, 5, 0, 20] ++ Bytes.zeros authenticatorSize), ⟨"192.0.2.8", 40001⟩)]

theorem visits_answered :
    (visits.map fun d => (delaying.receive d.1 d.2 ⟨[], 0⟩).sent.isSome) = [true, false, true] := by
  decide +kernel

theorem order_irrelevant_visits :
    delaying.faults.dropRate.isNumber 0 = true ∧ delaying.faults.corruptRate.isNumber 0 = true ∧
      (visits.map fun d => (delaying.receive d.1 d.2 ⟨[], 0⟩).sent.isSome) = [true, false, true] ∧
      ∃ more, ∀ chance other,
        delaying.receiveAll chance visits =
            (delaying.counting more, chance,
              visits.map fun d => (delaying.receive d.1 d.2 other).upshot) ∧
          delaying.receiveAll chance visits.reverse =
            (delaying.counting more, chance,
              visits.reverse.map fun d => (delaying.receive d.1 d.2 other).upshot) := by
  have hzero : (Value.real .zero).isNumber 0 = true := by decide +kernel
  obtain ⟨more, hmore⟩ := order_irrelevant (s := delaying) hzero hzero visits
  exact ⟨hzero, hzero, visits_answered, more, fun chance other =>
    ⟨hmore _ (.refl _) chance other, hmore _ (List.reverse_perm _) chance other⟩⟩

end Simulator

end Radius
