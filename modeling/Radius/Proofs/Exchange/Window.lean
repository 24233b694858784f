import Radius.Exchange

/-!
# Operations in time windows

An operation that is begun in a window meets one of three fates, said here by times alone. It ends
while the window is still open (`Window.Completes`), the window closes before that
(`Window.Closes`), or neither ever happens (`Window.Hangs`). An operation that does not suspend ends
in every window, also in one that has no time left.

`Window.run` follows the fate of the operation (`Window.run_cases`), and no operation has two of
them (`Window.Closes.not_admits`, `Window.Hangs.not_admits`, `Window.Closes.not_hangs`).

An operation that ends in a window, or never ends, does so in every window that is open at least as
long (`Window.Within.admits`, `Window.Within.hangs`).
-/

namespace Radius.Window

/-- Whether a window is still open at a time after it was opened. One without a positive limit
never is. -/
def OpenAt : Window → Rat → Prop
  | unlimited, _ => True
  | limited limit, time => 0 < limit ∧ time ≤ limit

/-- What is begun at `start` ends at a time at which the window is open. What does not suspend needs
no open window. -/
inductive Admits (w : Window) (start : Rat) : Wait → Rat → Prop
  | immediate : Admits w start .immediate start
  | suspended {seconds : Rat} (h : w.OpenAt (start + seconds)) :
      Admits w start (.suspended seconds) (start + seconds)

/-- The window closes before what is begun at `start` ends. -/
inductive Closes : Window → Rat → Wait → Prop
  | suspended {limit start seconds : Rat} (h : ¬(limited limit).OpenAt (start + seconds)) :
      Closes (limited limit) start (.suspended seconds)
  | forever {limit start : Rat} : Closes (limited limit) start .forever

/-- What never ends is in a window that never closes. -/
inductive Hangs : Window → Wait → Prop
  | forever : Hangs unlimited .forever

/-- An operation that is begun at `start` ends in the window at `time`, with a result. -/
def Completes {α : Type} (w : Window) (start : Rat) (op : Operation α) (result : Except Cause α)
    (time : Rat) : Prop :=
  w.Admits start op.wait time ∧ op.result = result

/-! ## One fate for each operation -/

theorem fate (w : Window) (start : Rat) (wait : Wait) :
    (∃ time, w.Admits start wait time) ∨ w.Closes start wait ∨ w.Hangs wait := by
  cases wait with
  | immediate => exact .inl ⟨start, .immediate⟩
  | suspended seconds =>
    by_cases h : w.OpenAt (start + seconds)
    · exact .inl ⟨_, .suspended h⟩
    · cases w with
      | unlimited => exact (h trivial).elim
      | limited limit => exact .inr (.inl (.suspended h))
  | forever =>
    cases w with
    | unlimited => exact .inr (.inr .forever)
    | limited limit => exact .inr (.inl .forever)

theorem Admits.unique {w : Window} {start time other : Rat} {wait : Wait}
    (h : w.Admits start wait time) (hother : w.Admits start wait other) : time = other := by
  cases h <;> cases hother <;> rfl

theorem Closes.not_admits {w : Window} {start time : Rat} {wait : Wait} (h : w.Closes start wait) :
    ¬w.Admits start wait time := by
  intro hadmits
  cases h with
  | suspended h =>
    cases hadmits with
    | suspended hopen => exact h hopen
  | forever => cases hadmits

theorem Hangs.not_admits {w : Window} {start time : Rat} {wait : Wait} (h : w.Hangs wait) :
    ¬w.Admits start wait time := by
  cases h
  rintro ⟨⟩

theorem Closes.not_hangs {w : Window} {start : Rat} {wait : Wait} (h : w.Closes start wait) :
    ¬w.Hangs wait := by
  cases h <;> rintro ⟨⟩

/-! ## Running -/

section Run

variable {α : Type} {w : Window} {start : Rat} {op : Operation α}

theorem run_of_admits {time : Rat} (h : w.Admits start op.wait time) :
    w.run start op = (endingOf op.result, time) := by
  obtain ⟨wait, result⟩ := op
  cases h with
  | immediate => cases w <;> rfl
  | @suspended seconds h =>
    cases w with
    | unlimited => rfl
    | limited limit =>
      obtain ⟨hpositive, hopen⟩ := h
      simp only [run]
      rw [if_neg (Rat.not_le.2 hpositive), if_neg (Rat.not_lt.2 hopen)]

theorem run_of_closes (h : w.Closes start op.wait) : ∃ time, w.run start op = (.closed, time) := by
  obtain ⟨wait, result⟩ := op
  cases h with
  | @suspended limit _ seconds h =>
    by_cases hlimit : limit ≤ 0
    · exact ⟨start, if_pos hlimit⟩
    · have hlate : limit < start + seconds :=
        Rat.not_le.1 fun hle => h ⟨Rat.not_le.1 hlimit, hle⟩
      exact ⟨limit, (if_neg hlimit).trans (if_pos hlate)⟩
  | @forever limit => exact ⟨if limit ≤ 0 then start else limit, rfl⟩

theorem run_of_hangs (h : w.Hangs op.wait) : w.run start op = (.waiting, start) := by
  obtain ⟨wait, result⟩ := op
  cases h
  rfl

end Run

/-- How an operation that is run in a window ends. -/
theorem run_cases {α : Type} (w : Window) (start : Rat) (op : Operation α) :
    (∃ a time, w.Completes start op (.ok a) time ∧ w.run start op = (.finished a, time)) ∨
      (∃ cause time, w.Completes start op (.error cause) time ∧
        w.run start op = (.failed cause, time)) ∨
      (w.Closes start op.wait ∧ ∃ time, w.run start op = (.closed, time)) ∨
      (w.Hangs op.wait ∧ w.run start op = (.waiting, start)) := by
  rcases w.fate start op.wait with ⟨time, h⟩ | h | h
  · have hrun := run_of_admits h
    cases hresult : op.result with
    | ok a =>
      rw [hresult] at hrun
      exact .inl ⟨a, time, ⟨h, hresult⟩, hrun⟩
    | error cause =>
      rw [hresult] at hrun
      exact .inr (.inl ⟨cause, time, ⟨h, hresult⟩, hrun⟩)
  · exact .inr (.inr (.inl ⟨h, run_of_closes h⟩))
  · exact .inr (.inr (.inr ⟨h, run_of_hangs h⟩))

/-! ## Wider windows -/

/-- Whenever a window is open, so is the other. -/
def Within (w v : Window) : Prop := ∀ time, w.OpenAt time → v.OpenAt time

theorem Within.eq_unlimited {v : Window} (h : unlimited.Within v) : v = unlimited := by
  cases v with
  | unlimited => rfl
  | limited limit =>
    -- A limited window is not open any more after its limit.
    have hopen : limit + 1 ≤ limit := (h (limit + 1) trivial).2
    grind

section Within

variable {w v : Window} (h : w.Within v)
include h

theorem Within.admits {start time : Rat} {wait : Wait} (hadmits : w.Admits start wait time) :
    v.Admits start wait time := by
  cases hadmits with
  | immediate => exact .immediate
  | suspended hopen => exact .suspended (h _ hopen)

theorem Within.hangs {wait : Wait} (hhangs : w.Hangs wait) : v.Hangs wait := by
  cases hhangs
  rw [h.eq_unlimited]
  exact .forever

end Within

/-- A window that closes has a limit, and what it closes on suspends. -/
theorem Closes.limited {w : Window} {start : Rat} {wait : Wait} (h : w.Closes start wait) :
    w ≠ unlimited ∧ wait ≠ .immediate := by
  cases h <;> exact ⟨by simp, by simp⟩

end Radius.Window
