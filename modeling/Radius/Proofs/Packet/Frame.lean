import Radius.Proofs.Attribute.Sequence
import Radius.Proofs.Header

/-!
# Frames and the datagrams that hold them

A datagram holds a frame if it is the frame's header, its body and any padding
(`Frame.ofBytes_eq_ok_iff`). The frame is then `Frame.Sound` : the code byte is the number of its
code, the length field counts header and body and is at most the largest packet, the authenticator
has its size, and the body is spelled by the attributes.

What stands after the count of a length field that fits is never looked at
(`Frame.ofBytes_eq_of_take_eq`).
-/

namespace Radius

namespace Frame

/-- The bytes of a frame. -/
def toBytes (f : Frame) : Bytes := f.header.toBytes ++ f.body

/-- The fields of a frame agree with each other and with the limits of a packet. -/
structure Sound (f : Frame) : Prop where
  code : f.header.code.toNat = f.code.number
  length : f.header.length = Header.size + f.body.length
  fits : f.header.length ≤ maxPacketSize
  authenticator : f.header.authenticator.length = authenticatorSize
  body : Attribute.Spells f.attributes f.body

theorem length_toBytes (f : Frame) : f.toBytes.length = Header.size + f.body.length := by
  simp [toBytes]

/-- The values of a sound frame's attributes fit their length byte. -/
theorem Sound.values {f : Frame} (h : f.Sound) {a : Attribute} (ha : a ∈ f.attributes) :
    a.value.length ≤ Attribute.maxValueSize :=
  (Attribute.spells_iff.1 h.body).1 a ha

theorem Sound.length_lt {f : Frame} (h : f.Sound) : f.header.length < 65536 := by
  have := h.fits
  simp only [maxPacketSize] at this
  omega

theorem Sound.ofBytes? {f : Frame} (h : f.Sound) (padding : Bytes) :
    Header.ofBytes? (f.toBytes ++ padding) = some f.header := by
  rw [toBytes, List.append_assoc]
  exact Header.ofBytes?_toBytes h.length_lt h.authenticator _

/-- The bytes that the length field of a sound frame counts after its header are its body. -/
theorem Sound.body_eq {f : Frame} (h : f.Sound) (padding : Bytes) :
    ((f.toBytes ++ padding).take f.header.length).drop Header.size = f.body := by
  rw [h.length, ← length_toBytes, List.take_left, toBytes, ← Header.length_toBytes f.header,
    List.drop_left]

/-- A datagram holds a frame if it is the frame's bytes and any padding. -/
theorem ofBytes_eq_ok_iff {data : Bytes} {f : Frame} :
    ofBytes data = .ok f ↔ f.Sound ∧ ∃ padding, data = f.toBytes ++ padding := by
  constructor
  · fun_cases ofBytes data with
    | case1 | case2 | case3 | case4 | case5 => simp
    | case6 header hheader hlength hpresent code hcode body attributes hbody =>
      intro h
      obtain rfl := (Except.ok.inj h).symm
      obtain ⟨-, hauth, rest, hdata⟩ := Header.ofBytes?_eq_some_iff.1 hheader
      simp only [Bool.or_eq_true, decide_eq_true_eq, not_or, Nat.not_lt] at hlength hpresent
      have hsize : body.length + Header.size = header.length := by
        simp only [body, List.length_drop, List.length_take]
        omega
      refine ⟨⟨?_, ?_, hlength.2, hauth, Attribute.decode_eq_ok_iff.1 hbody⟩,
        data.drop header.length, ?_⟩
      · exact (Code.number_of_ofNumber? hcode).symm
      · exact (Nat.add_comm _ _).trans hsize |>.symm
      · have hfront : header.toBytes = (data.take header.length).take Header.size := by
          rw [List.take_take, Nat.min_eq_left hlength.1, hdata, ← Header.length_toBytes header,
            List.take_left]
        rw [toBytes]
        simp only [body]
        rw [hfront, List.take_append_drop, List.take_append_drop]
  · rintro ⟨hs, padding, rfl⟩
    have hlength := hs.length
    have hfits := hs.fits
    have hcode : Code.ofNumber? f.header.code.toNat = some f.code := by
      rw [hs.code, Code.ofNumber?_number]
    rw [ofBytes, hs.ofBytes?]
    dsimp only
    rw [if_neg (by simp; omega), if_neg (by simp [length_toBytes]; omega), hcode]
    dsimp only
    rw [hs.body_eq, Attribute.decode_eq_ok_iff.2 hs.body]

/-- The bytes of a sound frame hold it. -/
theorem Sound.ofBytes_toBytes {f : Frame} (h : f.Sound) : ofBytes f.toBytes = .ok f :=
  ofBytes_eq_ok_iff.2 ⟨h, [], (List.append_nil _).symm⟩

section Held

variable {data : Bytes} {f : Frame} (h : ofBytes data = .ok f)
include h

theorem sound_of_ofBytes : f.Sound := (ofBytes_eq_ok_iff.1 h).1

theorem header_of_ofBytes : Header.ofBytes? data = some f.header := by
  obtain ⟨hs, padding, rfl⟩ := ofBytes_eq_ok_iff.1 h
  exact hs.ofBytes? padding

theorem head?_of_ofBytes : data.head? = some (UInt8.ofNat f.code.number) := by
  rw [Header.head?_of_ofBytes? (header_of_ofBytes h), ← (sound_of_ofBytes h).code,
    UInt8.ofNat_toNat]

theorem lengthField_of_ofBytes : Datagram.lengthField data = f.header.length :=
  Header.lengthField_of_ofBytes? (header_of_ofBytes h)

theorem body_of_ofBytes : Datagram.body data = f.body := by
  rw [Datagram.body, lengthField_of_ofBytes h]
  obtain ⟨hs, padding, rfl⟩ := ofBytes_eq_ok_iff.1 h
  exact hs.body_eq padding

/-- What the length field of a datagram counts are the bytes of the frame it holds. -/
theorem take_of_ofBytes : data.take (Datagram.lengthField data) = f.toBytes := by
  rw [lengthField_of_ofBytes h]
  obtain ⟨hs, padding, rfl⟩ := ofBytes_eq_ok_iff.1 h
  rw [hs.length, ← length_toBytes, List.take_left]

end Held

/-- What a datagram of at least a header's size holds, by its fields. -/
theorem ofBytes_eq {data : Bytes} {header : Header} (h : Header.ofBytes? data = some header) :
    ofBytes data =
      if Header.size ≤ Datagram.lengthField data ∧ Datagram.lengthField data ≤ maxPacketSize then
        if Datagram.lengthField data ≤ data.length then
          match Code.ofNumber? header.code.toNat with
          | none => .error (.unknownCode header.code)
          | some code =>
            match Attribute.decode (Datagram.body data) with
            | .error why => .error (.attributes why)
            | .ok attributes => .ok ⟨code, header, Datagram.body data, attributes⟩
        else .error .truncated
      else .error (.badLength (Datagram.lengthField data)) := by
  rw [ofBytes, h, Datagram.body, Header.lengthField_of_ofBytes? h]
  dsimp only
  by_cases hlength : Header.size ≤ header.length ∧ header.length ≤ maxPacketSize
  · rw [if_neg (by simp only [Bool.or_eq_true, decide_eq_true_eq]; omega), if_pos hlength]
    by_cases hpresent : header.length ≤ data.length
    · rw [if_neg (Nat.not_lt.2 hpresent)]
      exact (if_pos hpresent).symm
    · rw [if_pos (Nat.not_le.1 hpresent), if_neg hpresent]
  · rw [if_pos (by simp only [Bool.or_eq_true, decide_eq_true_eq]; omega), if_neg hlength]

/-! ## Padding -/

theorem lengthField_eq_of_take_eq {data other : Bytes} {n : Nat} (hn : 4 ≤ n)
    (h : other.take n = data.take n) :
    Datagram.lengthField other = Datagram.lengthField data := by
  have hfield : ∀ b : Bytes, (b.drop 2).take 2 = ((b.take n).drop 2).take 2 := by
    intro b
    rw [List.drop_take, List.take_take, Nat.min_eq_left (by omega)]
  rw [Datagram.lengthField, hfield, h, ← hfield, Datagram.lengthField]

/-- A frame is read off the bytes that the length field counts. -/
theorem ofBytes_take {data : Bytes} (hlow : Header.size ≤ Datagram.lengthField data)
    (hpresent : Datagram.lengthField data ≤ data.length) :
    ofBytes (data.take (Datagram.lengthField data)) = ofBytes data := by
  have htake := @Header.ofBytes?_take data _ hlow
  unfold ofBytes
  rw [htake]
  cases hheader : Header.ofBytes? data with
  | none => rfl
  | some header =>
    rw [Header.lengthField_of_ofBytes? hheader] at hpresent ⊢
    simp only [List.length_take, Nat.min_eq_left hpresent, List.take_take, Nat.min_self,
      Nat.lt_irrefl, if_false, Nat.not_lt.2 hpresent]

/-- Datagrams that agree up to the count of a length field that fits hold the same frame, or fail
in the same way. -/
theorem ofBytes_eq_of_take_eq {data other : Bytes} (hlow : Header.size ≤ Datagram.lengthField data)
    (hpresent : Datagram.lengthField data ≤ data.length)
    (h : other.take (Datagram.lengthField data) = data.take (Datagram.lengthField data)) :
    ofBytes other = ofBytes data := by
  have hfield := lengthField_eq_of_take_eq (Nat.le_trans (by decide) hlow) h
  have hlength := congrArg List.length h
  simp only [List.length_take, Nat.min_eq_left hpresent] at hlength
  rw [← ofBytes_take hlow hpresent, ← h, ← hfield, ofBytes_take (by omega) (by omega)]

end Frame

end Radius
