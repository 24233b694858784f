import Mathlib.Order.Bounds.Basic
import Radius.Proofs.Attribute.Sequence

/-!
# Reading a body at a position

A body is read round by round : each round reads the two header bytes at a position, then the value
they count, and moves the position past it (`round`). A byte that is asked for past the end of the
body is told apart from all other outcomes. What is read so far spells the bytes before the position
(`Cursor.Reads`). A round keeps this and moves on by two bytes at least, or ends with what `decode`
gives (`round_cases`), so every run of rounds stays inside the body and soon ends with the same
(`rounds_cases`).

What is wrong with a body shows after its longest part that attributes spell (`Longest`) : no more
of a flaw is spelled than nothing (`longest_of_flaw`), and what is reported is the flaw of the rest
(`Longest.decode_eq_error_iff`, `Longest.decides`). `decode_exact` : the whole of it.
-/

namespace Radius.Attribute

/-! ## Rounds -/

/-- Where the reading of a body stands. -/
structure Cursor where
  position : Nat
  attributes : List Attribute

/-- The front of a body, with nothing read. -/
def Cursor.start : Cursor := ⟨0, []⟩

/-- What a round leads to. -/
inductive Round where
  | proceed (next : Cursor)
  | halt (result : Except SequenceError (List Attribute))

/-- The bytes from one position up to another, if the body has them all. -/
def between? (body : Bytes) (first last : Nat) : Option Bytes :=
  if first ≤ last ∧ last ≤ body.length then some ((body.drop first).take (last - first)) else none

/-- Read the attribute at a position, if there is one. Nothing comes out if a byte is asked for that
the body does not have. -/
def round (body : Bytes) (c : Cursor) : Option Round :=
  if body.length ≤ c.position then some (.halt (.ok c.attributes))
  else if body.length - c.position < headerSize then some (.halt (.error .truncatedHeader))
  else do
    let type ← body[c.position]?
    let length ← body[c.position + 1]?
    if length.toNat < headerSize then return .halt (.error (.badLength length type))
    else if body.length < c.position + length.toNat then return .halt (.error (.overrun type))
    else
      let value ← between? body (c.position + headerSize) (c.position + length.toNat)
      return .proceed ⟨c.position + length.toNat, c.attributes ++ [⟨type, value⟩]⟩

/-- A number of rounds, or fewer if the reading ends before. -/
def rounds (body : Bytes) : Nat → Cursor → Option Round
  | 0, c => some (.proceed c)
  | n + 1, c => match round body c with
    | some (.proceed next) => rounds body n next
    | other => other

/-- What is read spells the bytes before the position. -/
structure Cursor.Reads (c : Cursor) (body : Bytes) : Prop where
  inside : c.position ≤ body.length
  spells : Spells c.attributes (body.take c.position)

theorem Cursor.reads_start (body : Bytes) : Cursor.start.Reads body :=
  ⟨Nat.zero_le _, .nil⟩

theorem Spells.append {a b : List Attribute} {front rest : Bytes} (ha : Spells a front)
    (hb : Spells b rest) : Spells (a ++ b) (front ++ rest) := by
  induction ha with
  | nil => exact hb
  | cons count tail ih =>
    simp only [List.cons_append, List.append_assoc]
    exact .cons count ih

section Position

variable {body tail : Bytes} {c : Cursor} {type length : UInt8}
  (hrest : body.drop c.position = type :: length :: tail)
include hrest

theorem length_of_drop : body.length = c.position + (tail.length + headerSize) := by
  have hlength := congrArg List.length hrest
  simp only [List.length_drop, List.length_cons] at hlength
  simp only [headerSize]
  omega

/-- The round at a position with two header bytes, by what they say. -/
theorem round_of_header : round body c =
    if length.toNat < headerSize then some (.halt (.error (.badLength length type)))
    else if tail.length + headerSize < length.toNat then some (.halt (.error (.overrun type)))
    else some (.proceed ⟨c.position + length.toNat,
      c.attributes ++ [⟨type, tail.take (length.toNat - headerSize)⟩]⟩) := by
  have hlength := length_of_drop hrest
  have htype : body[c.position]? = some type := by
    rw [← Nat.add_zero c.position, ← List.getElem?_drop, hrest]
    rfl
  have hcount : body[c.position + 1]? = some length := by
    rw [← List.getElem?_drop, hrest]
    rfl
  have hvalue : body.drop (c.position + headerSize) = tail := by
    rw [← List.drop_drop, hrest]
    rfl
  simp only [headerSize] at hlength
  rw [round, if_neg (by omega), if_neg (by simp only [headerSize]; omega), htype, hcount]
  simp only [Option.bind_eq_bind, Option.bind_some]
  split
  · rfl
  · next htwo =>
    by_cases hover : tail.length + headerSize < length.toNat
    · rw [if_pos hover, if_pos (by simp only [headerSize] at hover; omega)]
      rfl
    · have hin : c.position + headerSize ≤ c.position + length.toNat ∧
          c.position + length.toNat ≤ body.length := by
        simp only [headerSize] at htwo hover ⊢
        omega
      rw [if_neg hover, if_neg (Nat.not_lt.2 hin.2), between?, if_pos hin, hvalue,
        Nat.add_sub_add_left]
      rfl

end Position

/-- A round moves the position on past one more attribute, or ends with what the body is read
as. -/
theorem round_cases {body : Bytes} {c : Cursor} (h : c.Reads body) :
    (∃ next, round body c = some (.proceed next) ∧ next.Reads body ∧
        c.position + headerSize ≤ next.position) ∨
      round body c = some (.halt (decode body)) := by
  have hdecode : decode body = (decode (body.drop c.position)).map (c.attributes ++ ·) := by
    rw [← decode_append h.spells, List.take_append_drop]
  have hsize : (body.drop c.position).length = body.length - c.position := List.length_drop
  -- Nothing is left, or one byte, or a header that says how to go on.
  match hrest : body.drop c.position with
  | [] =>
    rw [hrest, List.length_nil] at hsize
    have hend : body.length ≤ c.position := by omega
    rw [round, if_pos hend, hdecode, hrest, decode]
    simp [Except.map]
  | [type] =>
    rw [hrest, List.length_singleton] at hsize
    have hinside : ¬body.length ≤ c.position := by omega
    have hshort : body.length - c.position < headerSize := by rw [← hsize]; decide
    rw [round, if_neg hinside, if_pos hshort, hdecode, hrest, decode]
    exact .inr rfl
  | type :: length :: tail =>
    rw [round_of_header hrest]
    rw [hrest] at hdecode
    by_cases htwo : length.toNat < headerSize
    · rw [if_pos htwo, hdecode, (Flaw.badLength htwo).decode]
      exact .inr rfl
    · by_cases hover : tail.length + headerSize < length.toNat
      · rw [if_neg htwo, if_pos hover, hdecode, (Flaw.overrun hover).decode]
        exact .inr rfl
      · rw [if_neg htwo, if_neg hover]
        have hlength := length_of_drop hrest
        simp only [Nat.not_lt] at htwo hover
        refine .inl ⟨_, rfl, ⟨by dsimp only; omega, ?_⟩, by dsimp only; omega⟩
        have hcount : length.toNat =
            (tail.take (length.toNat - headerSize)).length + headerSize := by
          rw [List.length_take]
          omega
        have hone : Spells [⟨type, _⟩] _ := .cons hcount .nil
        have htake : body.take (c.position + length.toNat) = body.take c.position ++
            type :: length :: (tail.take (length.toNat - headerSize) ++ []) := by
          obtain ⟨n, hn⟩ := Nat.exists_eq_add_of_le' htwo
          rw [List.take_add, hrest, hn, List.append_nil]
          rfl
        rw [htake]
        exact h.spells.append hone

/-- Rounds move the position on by two bytes each at least, or end with what the body is read
as. -/
theorem rounds_cases {body : Bytes} (n : Nat) {c : Cursor} (h : c.Reads body) :
    (∃ next, rounds body n c = some (.proceed next) ∧ next.Reads body ∧
        c.position + headerSize * n ≤ next.position) ∨
      rounds body n c = some (.halt (decode body)) := by
  induction n generalizing c with
  | zero => exact .inl ⟨c, rfl, h, Nat.le_refl _⟩
  | succ n ih =>
    rw [rounds]
    rcases round_cases h with ⟨next, hround, hnext, hmoves⟩ | hround
    · rw [hround]
      rcases ih hnext with ⟨last, hrounds, hlast, hfar⟩ | hrounds
      · exact .inl ⟨last, hrounds, hlast, by rw [Nat.mul_succ]; omega⟩
      · exact .inr hrounds
    · rw [hround]
      exact .inr rfl

/-- Reading ends with what the body is read as, after a round for every two bytes and one more. -/
theorem rounds_halt {body : Bytes} {n : Nat} (hn : body.length < headerSize * n) :
    rounds body n .start = some (.halt (decode body)) := by
  rcases rounds_cases n (Cursor.reads_start body) with ⟨next, -, hnext, hfar⟩ | hhalt
  · have hinside := hnext.inside
    omega
  · exact hhalt

/-- Reading never asks for a byte that the body does not have. -/
theorem rounds_ne_none (body : Bytes) (n : Nat) : rounds body n .start ≠ none := by
  rcases rounds_cases n (Cursor.reads_start body) with ⟨next, hproceed, -⟩ | hhalt
  · simp [hproceed]
  · simp [hhalt]

/-! ## The longest part that is spelled -/

/-- The first `n` bytes are the longest part at the front of a body that attributes spell. -/
def Longest (body : Bytes) (n : Nat) : Prop :=
  IsGreatest {k | k ≤ body.length ∧ ∃ attributes, Spells attributes (body.take k)} n

/-- A flaw that is cut off is still one, unless nothing is left of it. -/
theorem Flaw.take {rest : Bytes} {why : SequenceError} (h : Flaw rest why) :
    ∀ k, 0 < k → k ≤ rest.length → ∃ other, Flaw (rest.take k) other := by
  intro k hpos hk
  cases h with
  | truncated type =>
    obtain rfl : k = 1 := Nat.le_antisymm hk hpos
    exact ⟨_, .truncated type⟩
  | @badLength type length tail h =>
    match k with
    | 1 => exact ⟨_, .truncated type⟩
    | k + 2 => exact ⟨_, .badLength h⟩
  | @overrun type length tail h =>
    match k with
    | 1 => exact ⟨_, .truncated type⟩
    | k + 2 =>
      refine ⟨_, Flaw.overrun (Nat.lt_of_le_of_lt ?_ h)⟩
      exact Nat.add_le_add_right (List.length_take_le' _ _) _

/-- Up to a flaw a body is spelled, and no further. -/
theorem longest_of_flaw {attributes : List Attribute} {front rest : Bytes} {why : SequenceError}
    (hs : Spells attributes front) (hf : Flaw rest why) : Longest (front ++ rest) front.length := by
  constructor
  · exact ⟨by simp, attributes, by rwa [List.take_left]⟩
  · -- A longer part would be what is spelled and the beginning of the flaw, which is flawed too.
    rintro k ⟨hk, others, hothers⟩
    refine Nat.le_of_not_lt fun hlt => ?_
    obtain ⟨n, rfl⟩ := Nat.exists_eq_add_of_lt hlt
    rw [List.length_append] at hk
    rw [Nat.add_assoc, List.take_length_add_append] at hothers
    obtain ⟨other, hother⟩ := hf.take (n + 1) (Nat.succ_pos n) (by omega)
    have herror := decode_eq_error_iff.2 ⟨attributes, front, _, rfl, hs, hother⟩
    cases herror.symm.trans (decode_eq_ok_iff.2 hothers)

theorem longest_of_spells {attributes : List Attribute} {body : Bytes}
    (h : Spells attributes body) : Longest body body.length :=
  ⟨⟨Nat.le_refl _, attributes, by rwa [List.take_length]⟩, fun _ hk => hk.1⟩

/-- Every body has a longest part that is spelled. -/
theorem exists_longest (body : Bytes) : ∃ n, Longest body n := by
  rcases decode_spec body with ⟨_, -, hs⟩ | ⟨_, -, _, front, rest, rfl, hs, hf⟩
  · exact ⟨_, longest_of_spells hs⟩
  · exact ⟨_, longest_of_flaw hs hf⟩

section Rest

variable {body : Bytes} {n : Nat} (h : Longest body n)
include h

/-- A body is read if nothing is left after its longest part that is spelled. -/
theorem Longest.exists_decode_iff :
    (∃ attributes, decode body = .ok attributes) ↔ body.drop n = [] := by
  simp only [decode_eq_ok_iff, List.drop_eq_nil_iff]
  constructor
  · rintro ⟨attributes, hs⟩
    exact h.2 ⟨Nat.le_refl _, attributes, by rwa [List.take_length]⟩
  · intro hall
    obtain ⟨attributes, hs⟩ := h.1.2
    exact ⟨attributes, by rwa [List.take_of_length_le hall] at hs⟩

/-- What is reported is what is wrong with the rest. -/
theorem Longest.decode_eq_error_iff {why : SequenceError} :
    decode body = .error why ↔ Flaw (body.drop n) why := by
  rw [Attribute.decode_eq_error_iff]
  constructor
  · rintro ⟨attributes, front, rest, rfl, hs, hf⟩
    rwa [h.unique (longest_of_flaw hs hf), List.drop_left]
  · intro hf
    obtain ⟨attributes, hs⟩ := h.1.2
    exact ⟨attributes, _, _, (List.take_append_drop n body).symm, hs, hf⟩

end Rest

section Flaws

variable {rest : Bytes} {length type : UInt8}

theorem flaw_truncatedHeader_iff : Flaw rest .truncatedHeader ↔ rest.length = 1 := by
  constructor
  · rintro ⟨⟩
    rfl
  · intro h
    obtain ⟨type, rfl⟩ := List.length_eq_one_iff.1 h
    exact .truncated type

theorem flaw_badLength_iff : Flaw rest (.badLength length type) ↔
    ∃ tail, rest = type :: length :: tail ∧ length.toNat < headerSize := by
  constructor
  · rintro ⟨⟩
    exact ⟨_, rfl, ‹_›⟩
  · rintro ⟨tail, rfl, h⟩
    exact .badLength h

theorem flaw_overrun_iff : Flaw rest (.overrun type) ↔
    ∃ length tail, rest = type :: length :: tail ∧ rest.length < length.toNat := by
  constructor
  · rintro ⟨⟩
    exact ⟨_, _, rfl, ‹_›⟩
  · rintro ⟨length, tail, rfl, h⟩
    exact .overrun h

end Flaws

/-! ## Exactness -/

/-- What is left after the longest part of a body that is spelled decides on the body : it is read
if nothing is left, and else refused for one byte alone, or for a count of less than the two header
bytes, or for a count beyond the end. -/
structure Decides (rest body : Bytes) : Prop where
  read : (∃ attributes, decode body = .ok attributes) ↔ rest = []
  truncated : decode body = .error .truncatedHeader ↔ rest.length = 1
  badLength : ∀ length type, decode body = .error (.badLength length type) ↔
    ∃ tail, rest = type :: length :: tail ∧ length.toNat < headerSize
  overrun : ∀ type, decode body = .error (.overrun type) ↔
    ∃ length tail, rest = type :: length :: tail ∧ rest.length < length.toNat

theorem Longest.decides {body : Bytes} {n : Nat} (h : Longest body n) :
    Decides (body.drop n) body where
  read := h.exists_decode_iff
  truncated := h.decode_eq_error_iff.trans flaw_truncatedHeader_iff
  badLength _ _ := h.decode_eq_error_iff.trans flaw_badLength_iff
  overrun _ := h.decode_eq_error_iff.trans flaw_overrun_iff

/-- A body is read as the one sequence of attributes that spells it, that is, the one that is
written as this body. Any other body is refused for what is left after its longest part that is
spelled. Reading at a position, round by round, ends with the same after a round for every two bytes
and one more, and never asks for a byte that the body does not have. -/
theorem decode_exact (body : Bytes) :
    (∀ attributes, decode body = .ok attributes ↔ Spells attributes body) ∧
      (∀ attributes, Spells attributes body ↔
        (∀ a ∈ attributes, a.value.length ≤ maxValueSize) ∧ body = encode attributes) ∧
      (∀ a b, Spells a body → Spells b body → a = b) ∧
      (∃ n, Longest body n ∧ Decides (body.drop n) body) ∧
      (SequenceError.truncatedHeader.message = "truncated attribute header" ∧
        (∀ length type : UInt8, (SequenceError.badLength length type).message =
          "bad length " ++ toString length.toNat ++ " for attribute " ++ toString type.toNat) ∧
        ∀ type : UInt8, (SequenceError.overrun type).message =
          "attribute " ++ toString type.toNat ++ " overruns packet") ∧
      (∀ n, body.length < headerSize * n → rounds body n .start = some (.halt (decode body))) ∧
      ∀ n, rounds body n .start ≠ none := by
  obtain ⟨n, hn⟩ := exists_longest body
  exact ⟨fun _ => decode_eq_ok_iff, fun _ => spells_iff, fun _ _ => Spells.unique,
    ⟨n, hn, hn.decides⟩, ⟨rfl, fun _ _ => rfl, fun _ => rfl⟩, fun _ => rounds_halt,
    rounds_ne_none body⟩

end Radius.Attribute
