import Radius.Proofs.Packet.Attributes

/-!
# Packets built by additions

What is added to a packet stands at the end of its attributes, as a pair of a type of any kind and a
byte string (`Packet.holding`, `Packet.addAll_holding_eq_ok`). Such a packet is sent with just these
attributes (`Packet.Sends.holds`), so what is looked up in it is what is sent first under a type
(`Packet.Sends.get_eq`).
-/

namespace Radius.Packet

/-- Add attributes one after the other. -/
def addAll (p : Packet) (further : List (Value × Value)) : Except PacketError Packet :=
  further.foldlM (fun p a => p.add a.1 a.2) p

/-- A packet with other attributes, of byte string values. -/
def holding (p : Packet) (attributes : List (Value × Bytes)) : Packet :=
  { p with attributes := .list (attributes.map fun a => .pair a.1 (.bytes a.2)) }

theorem add_holding_eq_ok {p q : Packet} {attributes : List (Value × Bytes)} {type value : Value}
    (h : (p.holding attributes).add type value = .ok q) :
    ∃ b, q = p.holding (attributes ++ [(type, b)]) := by
  obtain ⟨b, -, hq⟩ := bind_eq_ok_iff.1 h
  refine ⟨b, (Except.ok.inj hq).symm.trans ?_⟩
  rw [holding, holding, List.map_append]
  rfl

/-- What is added stands after what is there. -/
theorem addAll_holding_eq_ok {further : List (Value × Value)} {p q : Packet}
    {attributes : List (Value × Bytes)} (h : (p.holding attributes).addAll further = .ok q) :
    ∃ added, q = p.holding (attributes ++ added) := by
  induction further generalizing attributes with
  | nil => exact ⟨[], by rw [List.append_nil]; exact (Except.ok.inj h).symm⟩
  | cons a rest ih =>
    rw [addAll, List.foldlM_cons, bind_eq_ok_iff] at h
    obtain ⟨r, hr, h⟩ := h
    obtain ⟨b, rfl⟩ := add_holding_eq_ok hr
    obtain ⟨added, rfl⟩ := ih h
    exact ⟨(a.1, b) :: added, by rw [List.append_assoc]; rfl⟩

/-! ## What is sent of them -/

section Sent

variable {p : Packet} {attributes : List (Value × Bytes)} {f : Frame}
  (h : (p.holding attributes).Sends f)
include h

/-- A packet of byte string values is sent with the attributes its items hold. -/
theorem Sends.holds :
    List.Forall₂ Value.Holds (attributes.map fun a => .pair a.1 (.bytes a.2)) f.attributes := by
  obtain ⟨items, hitems, hdenotes⟩ := h.attributes
  obtain rfl := Except.ok.inj hitems
  rw [List.forall₂_map_left_iff] at hdenotes ⊢
  exact hdenotes.imp fun _ _ => Value.Denotes.holds

theorem Sends.get_eq (type : Nat) : (p.holding attributes).get (.integer type) =
    .ok (.ofBytes? (Attribute.first? type f.attributes)) := by
  have hitems : (p.holding attributes).attributes.items =
    .ok (attributes.map fun a => .pair a.1 (.bytes a.2)) := rfl
  rw [get, hitems, lift_operand, mapError_ok, ok_bind, firstOf_eq type h.holds]
  rfl

end Sent

end Radius.Packet
