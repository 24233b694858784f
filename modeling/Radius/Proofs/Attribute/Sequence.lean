import Radius.Attribute

/-!
# Bodies as sequences of attributes

`Spells attributes body` says what a body is, without the functions that write and read it : the
attributes one after the other, each as its type, the count of its bytes and its value. `encode`
writes such a body for values that fit the count (`spells_iff`), and `decode` reads exactly these
bodies (`decode_eq_ok_iff`), so a body is spelled by one sequence only (`Spells.unique`).

Every other body has a longest part that attributes spell, and after it a `Flaw` : one byte alone,
a count below the two bytes it has to count, or a count beyond the end. `decode` reports the flaw
(`decode_eq_error_iff`).
-/

namespace Radius.Attribute

/-! ## The grammar -/

/-- A body that a sequence of attributes spells. The length byte counts the type, itself and the
value. -/
inductive Spells : List Attribute → Bytes → Prop
  | nil : Spells [] []
  | cons {type length : UInt8} {value rest : Bytes} {attributes : List Attribute}
      (count : length.toNat = value.length + headerSize) (tail : Spells attributes rest) :
      Spells (⟨type, value⟩ :: attributes) (type :: length :: (value ++ rest))

/-- Bytes that begin with no attribute, and what is wrong with them. -/
inductive Flaw : Bytes → SequenceError → Prop
  | truncated (type : UInt8) : Flaw [type] .truncatedHeader
  | badLength {type length : UInt8} {rest : Bytes} (h : length.toNat < headerSize) :
      Flaw (type :: length :: rest) (.badLength length type)
  | overrun {type length : UInt8} {rest : Bytes} (h : rest.length + headerSize < length.toNat) :
      Flaw (type :: length :: rest) (.overrun type)

/-- A body that attributes spell up to a flaw. -/
def Breaks (body : Bytes) (why : SequenceError) : Prop :=
  ∃ attributes front rest, body = front ++ rest ∧ Spells attributes front ∧ Flaw rest why

/-! ## Reading -/

/-- The first attribute of a body is read off its front. -/
theorem decode_cons {type length : UInt8} {value : Bytes}
    (count : length.toNat = value.length + headerSize) (rest : Bytes) :
    decode (type :: length :: (value ++ rest)) = (decode rest).map (⟨type, value⟩ :: ·) := by
  have hsize : length.toNat - headerSize = value.length := by omega
  have htwo : ¬length < 2 := by
    rw [UInt8.lt_iff_toNat_lt, count]
    simp [headerSize]
  rw [decode, if_neg htwo, hsize, if_neg (by simp)]
  simp

/-- What attributes spell is read as them, whatever follows. -/
theorem decode_append {attributes : List Attribute} {front : Bytes} (h : Spells attributes front)
    (rest : Bytes) : decode (front ++ rest) = (decode rest).map (attributes ++ ·) := by
  induction h with
  | nil => cases hd : decode rest <;> simp [hd, Except.map]
  | cons count tail ih =>
    simp only [List.cons_append, List.append_assoc]
    rw [decode_cons count, ih]
    cases decode rest <;> simp [Except.map]

theorem Flaw.decode {rest : Bytes} {why : SequenceError} (h : Flaw rest why) :
    decode rest = .error why := by
  cases h with
  | truncated => rw [Attribute.decode]
  | badLength h =>
    rw [Attribute.decode, if_pos]
    simpa [UInt8.lt_iff_toNat_lt, headerSize] using h
  | overrun h =>
    rw [Attribute.decode, if_neg, if_pos (by omega)]
    simp [UInt8.lt_iff_toNat_lt, headerSize] at h ⊢
    omega

/-- Reading stops at the end of a body or at its flaw. -/
theorem decode_spec (body : Bytes) :
    (∃ attributes, decode body = .ok attributes ∧ Spells attributes body) ∨
      ∃ why, decode body = .error why ∧ Breaks body why := by
  fun_induction decode body with
  | case1 => exact .inl ⟨[], rfl, .nil⟩
  | case2 type => exact .inr ⟨_, rfl, [], [], [type], rfl, .nil, .truncated type⟩
  | case3 type length rest h =>
    refine .inr ⟨_, rfl, [], [], _, rfl, .nil, .badLength ?_⟩
    simpa [UInt8.lt_iff_toNat_lt, headerSize] using h
  | case4 type length rest htwo h =>
    exact .inr ⟨_, rfl, [], [], _, rfl, .nil, .overrun (by omega)⟩
  | case5 type length rest htwo hover ih =>
    have hcount : length.toNat = (rest.take (length.toNat - headerSize)).length + headerSize := by
      simp [UInt8.lt_iff_toNat_lt, headerSize] at htwo hover ⊢
      omega
    have hrest := List.take_append_drop (length.toNat - headerSize) rest
    rcases ih with ⟨attributes, hok, hs⟩ | ⟨why, herr, attributes, front, tail, hb, hs, hf⟩
    · refine .inl ⟨_, by rw [hok]; rfl, ?_⟩
      have hspelled : Spells (⟨type, _⟩ :: attributes) _ := .cons hcount hs
      rwa [hrest] at hspelled
    · have hspelled : Spells (⟨type, _⟩ :: attributes) _ := .cons hcount hs
      refine .inr ⟨why, by rw [herr]; rfl, _, _, tail, ?_, hspelled, hf⟩
      rw [List.cons_append, List.cons_append, List.append_assoc, ← hb, hrest]

/-- A body is read as the attributes that spell it. -/
theorem decode_eq_ok_iff {body : Bytes} {attributes : List Attribute} :
    decode body = .ok attributes ↔ Spells attributes body := by
  constructor
  · intro h
    rcases decode_spec body with ⟨_, hok, hs⟩ | ⟨_, herr, -⟩
    · rw [h] at hok
      cases hok
      exact hs
    · simp [h] at herr
  · intro h
    simpa [decode, Except.map] using decode_append h []

/-- What is reported of a body is its flaw. -/
theorem decode_eq_error_iff {body : Bytes} {why : SequenceError} :
    decode body = .error why ↔ Breaks body why := by
  constructor
  · intro h
    rcases decode_spec body with ⟨_, hok, -⟩ | ⟨_, herr, hb⟩
    · simp [h] at hok
    · rw [h] at herr
      cases herr
      exact hb
  · rintro ⟨attributes, front, rest, rfl, hs, hf⟩
    rw [decode_append hs, hf.decode]
    rfl

theorem Spells.unique {a b : List Attribute} {body : Bytes} (ha : Spells a body)
    (hb : Spells b body) : a = b := by
  have h := decode_eq_ok_iff.2 ha
  rw [decode_eq_ok_iff.2 hb] at h
  exact (Except.ok.inj h).symm

/-! ## Writing -/

/-- What attributes spell is what is written for them, and their values fit the length byte. -/
theorem spells_iff {attributes : List Attribute} {body : Bytes} :
    Spells attributes body ↔
      (∀ a ∈ attributes, a.value.length ≤ maxValueSize) ∧ body = encode attributes := by
  constructor
  · intro h
    induction h with
    | nil => simp [encode]
    | @cons type length value rest attributes count tail ih =>
      have hlt := length.toNat_lt
      have hlength : UInt8.ofNat (value.length + headerSize) = length := by
        rw [← count, UInt8.ofNat_toNat]
      refine ⟨?_, ?_⟩
      · intro a ha
        rcases List.mem_cons.1 ha with rfl | ha
        · simp only [maxValueSize, headerSize] at count ⊢
          omega
        · exact ih.1 a ha
      · simp [encode, toBytes, hlength, ih.2]
  · rintro ⟨hfit, rfl⟩
    exact decode_eq_ok_iff.1 (decode_encode hfit)

end Radius.Attribute
