/-!
# Splitting text

`split` cuts a text at every occurrence of a character, so that `n` occurrences make `n + 1` parts,
some of them perhaps empty.

`join_split` : putting the character back between the parts gives the text again. `split_join` : the
parts are those that the text was put together of, if the character is in none of them.
-/

namespace Radius.Text

/-- The parts of a text between the occurrences of `c`. -/
def split (c : Char) : List Char → List (List Char)
  | [] => [[]]
  | x :: xs =>
    if x = c then [] :: split c xs
    else match split c xs with
      | [] => [[x]]
      | part :: rest => (x :: part) :: rest

/-- Parts of a text with `c` between them. -/
def join (c : Char) : List (List Char) → List Char
  | [] => []
  | [part] => part
  | part :: rest => part ++ c :: join c rest

theorem split_ne_nil (c : Char) (cs : List Char) : split c cs ≠ [] := by
  cases cs with
  | nil => simp [split]
  | cons x xs =>
    simp only [split]
    split
    · simp
    · split <;> simp

theorem join_split (c : Char) (cs : List Char) : join c (split c cs) = cs := by
  induction cs with
  | nil => rfl
  | cons x xs ih =>
    simp only [split]
    split
    · rename_i h
      obtain ⟨part, rest, hs⟩ := List.exists_cons_of_ne_nil (split_ne_nil c xs)
      simp [join, hs ▸ ih, hs, h]
    · obtain ⟨part, rest, hs⟩ := List.exists_cons_of_ne_nil (split_ne_nil c xs)
      rw [hs] at ih ⊢
      cases rest <;> simp_all [join]

theorem split_of_not_mem {c : Char} {part : List Char} (h : c ∉ part) : split c part = [part] := by
  induction part with
  | nil => rfl
  | cons x xs ih =>
    have hx : x ≠ c := fun hx => h (by simp [hx])
    rw [split, if_neg hx, ih fun hxs => h (by simp [hxs])]

theorem split_append {c : Char} {part : List Char} (h : c ∉ part) (rest : List Char) :
    split c (part ++ c :: rest) = part :: split c rest := by
  induction part with
  | nil => rw [List.nil_append, split, if_pos rfl]
  | cons x xs ih =>
    have hx : x ≠ c := fun hx => h (by simp [hx])
    rw [List.cons_append, split, if_neg hx, ih fun hxs => h (by simp [hxs])]

theorem split_join {c : Char} {parts : List (List Char)} (hne : parts ≠ [])
    (h : ∀ part ∈ parts, c ∉ part) : split c (join c parts) = parts := by
  induction parts with
  | nil => exact (hne rfl).elim
  | cons part rest ih =>
    have hpart : c ∉ part := h part (by simp)
    cases rest with
    | nil => exact split_of_not_mem hpart
    | cons next rest =>
      rw [join, split_append hpart, ih (by simp) fun p hp => h p (by simp [hp])]
      simp

end Radius.Text
