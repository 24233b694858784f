import Radius.Proofs.Except
import Radius.Simulator.Receive

/-!
# What a simulator sends

A simulator sends something for a datagram exactly if it is not dropped, decodes, gets a reply that
has a wire form, and the faults of the reply can be drawn (`Simulator.receive_sent_iff`). What is
sent is then the wire form of the reply, perhaps corrupted (`Simulator.transmitted`) : changed in
its ninth byte and nowhere else (`Simulator.getElem?_corrupt_ne_iff`).
-/

namespace Radius.Simulator

/-- The bytes that are sent for an encoded reply. -/
def transmitted (wire : Bytes) (corrupted : Bool) : Bytes :=
  if corrupted && smallestCorruptible < wire.length then corrupt wire else wire

variable {s : Simulator} {data : Value} {sender : Peer} {chance : Chance} {d : Dispatch}

theorem send_sent_iff {wire : Bytes} :
    (s.send wire sender chance).sent = some d ↔
      ∃ corrupted rest delay, s.faults.corrupted chance = .ok (corrupted, rest) ∧
        s.faults.delaySeconds = .ok delay ∧
        d = dispatch (transmitted wire corrupted) delay sender := by
  rw [send]
  cases hcorrupted : s.faults.corrupted chance with
  | error why => simp
  | ok drawn =>
    cases hdelay : s.faults.delaySeconds with
    | error why => simp [hdelay]
    | ok delay =>
      dsimp only
      rw [hdelay]
      constructor
      · intro h
        exact ⟨drawn.1, drawn.2, delay, rfl, rfl, (Option.some.inj h).symm⟩
      · rintro ⟨_, _, _, hdrawn, hsame, rfl⟩
        cases hdrawn
        cases hsame
        rfl

theorem answer_sent_iff :
    (s.answer data sender chance).sent = some d ↔
      ∃ request r wire, Packet.decode data s.secret .absent = .ok request ∧
        s.reply request noEntropy = .ok (some r) ∧ r.encode = .ok wire ∧
        (s.send wire sender chance).sent = some d := by
  rw [answer]
  cases hdecode : Packet.decode data s.secret .absent with
  | error why => cases why <;> simp
  | ok request =>
    cases hreply : s.reply request noEntropy with
    | error why => simp [hreply]
    | ok reply =>
      cases reply with
      | none => simp [hreply]
      | some r =>
        cases hwire : r.encode with
        | error why => simp [hreply, hwire]
        | ok wire => simp [hreply, hwire]

/-- What has been counted changes no reply. -/
theorem reply_of_counters (s : Simulator) (counters : Counters) :
    { s with counters }.reply = s.reply := rfl

/-- A dispatch is sent for a datagram exactly if the datagram is not dropped, decodes and gets a
reply, the reply has a wire form, and the faults say that this goes out as the dispatch. -/
theorem receive_sent_iff :
    (s.receive data sender chance).sent = some d ↔
      ∃ kept request r wire corrupted rest delay,
        s.faults.dropped chance = .ok (false, kept) ∧
        Packet.decode data s.secret .absent = .ok request ∧
        s.reply request noEntropy = .ok (some r) ∧ r.encode = .ok wire ∧
        s.faults.corrupted kept = .ok (corrupted, rest) ∧ s.faults.delaySeconds = .ok delay ∧
        d = dispatch (transmitted wire corrupted) delay sender := by
  rw [receive]
  dsimp only
  cases hdropped : s.faults.dropped chance with
  | error why => simp
  | ok drawn =>
    obtain ⟨dropped, kept⟩ := drawn
    cases dropped with
    | true => simp
    | false =>
      simp only [answer_sent_iff, send_sent_iff, reply_of_counters]
      constructor
      · rintro ⟨request, r, wire, hdecode, hreply, hwire, corrupted, rest, delay, hdrawn, hdelay,
          rfl⟩
        exact ⟨kept, request, r, wire, corrupted, rest, delay, rfl, hdecode, hreply, hwire, hdrawn,
          hdelay, rfl⟩
      · rintro ⟨_, request, r, wire, corrupted, rest, delay, hkept, hdecode, hreply, hwire, hdrawn,
          hdelay, rfl⟩
        cases hkept
        exact ⟨request, r, wire, hdecode, hreply, hwire, corrupted, rest, delay, hdrawn, hdelay,
          rfl⟩

/-! ## Corrupted replies -/

theorem length_corrupt (wire : Bytes) : (corrupt wire).length = wire.length :=
  List.length_modify ..

/-- Inverting a byte changes it. -/
theorem inverted_ne (b : UInt8) : b ^^^ 0xff ≠ b := by
  intro h
  have hzero := congrArg (b ^^^ ·) h
  simp only [← UInt8.xor_assoc, UInt8.xor_self, UInt8.zero_xor] at hzero
  cases hzero

/-- Corrupting a reply changes the ninth byte and no other. -/
theorem getElem?_corrupt_ne_iff {wire : Bytes} (h : 8 < wire.length) (i : Nat) :
    (corrupt wire)[i]? ≠ wire[i]? ↔ i = 8 := by
  rw [corrupt, List.getElem?_modify]
  by_cases hi : 8 = i
  · subst hi
    rw [List.getElem?_eq_getElem h]
    exact iff_of_true (fun hsame => inverted_ne _ (Option.some.inj hsame)) rfl
  · simp [hi, Ne.symm hi]

/-- Nothing outside the authenticator is corrupted. -/
theorem getElem?_corrupt_outside (wire : Bytes) (i : Nat) (hi : i < 4 ∨ Header.size ≤ i) :
    (corrupt wire)[i]? = wire[i]? := by
  have hother : 8 ≠ i := by
    simp only [Header.size] at hi
    omega
  rw [corrupt, List.getElem?_modify]
  simp [hother]

theorem corrupt_ne {wire : Bytes} (h : 8 < wire.length) : corrupt wire ≠ wire :=
  fun hsame => (getElem?_corrupt_ne_iff h 8).2 rfl (by rw [hsame])

theorem transmitted_of_corrupted {wire : Bytes} (h : Header.size ≤ wire.length) :
    transmitted wire true = corrupt wire := by
  have hlarge : smallestCorruptible < wire.length := Nat.lt_of_lt_of_le (by decide) h
  simp [transmitted, hlarge]

end Radius.Simulator
