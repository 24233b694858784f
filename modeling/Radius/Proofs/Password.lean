import Radius.Password

/-!
# Hidden passwords revealed

Hiding and revealing undo each other under the same secret and authenticator
(`Password.chain_reversed`) : both walk the hidden text block by block, so they combine every block
with the same digest. A padded password is one or more whole blocks (`Password.length_padded`), and
what is revealed of it, without the zeros at its end, is the password without the zeros at its end
(`Password.trimZeros_reveal_hide`).
-/

namespace Radius

namespace Bytes

/-- Combining twice with a string that is long enough changes nothing. -/
theorem xor_xor {a b : Bytes} (h : a.length ≤ b.length) : xor (xor a b) b = a := by
  induction a generalizing b with
  | nil => rfl
  | cons x a ih =>
    cases b with
    | nil => simp at h
    | cons y b =>
      have hrest := ih (Nat.le_of_succ_le_succ h)
      simp only [xor, List.zipWith_cons_cons] at hrest ⊢
      rw [hrest, UInt8.xor_assoc, UInt8.xor_self, UInt8.xor_zero]

theorem trimZeros_append_zeros (b : Bytes) (n : Nat) : trimZeros (b ++ zeros n) = trimZeros b := by
  simp [trimZeros, zeros]

end Bytes

namespace Password

/-- The direction that undoes a direction. -/
def Direction.reversed : Direction → Direction
  | hide => reveal
  | reveal => hide

/-- What the next block is chained from, out of a block before and after it is combined. -/
def Direction.link : Direction → Bytes → Bytes → Bytes
  | hide, _, out => out
  | reveal, block, _ => block

theorem Direction.link_reversed (d : Direction) (block out : Bytes) :
    d.reversed.link out block = d.link block out := by
  cases d <;> rfl

/-- A block at the front of a text : whole, or all that there is. -/
def IsBlock (block rest : Bytes) : Prop :=
  block ≠ [] ∧ (block.length = blockSize ∨ block.length < blockSize ∧ rest = [])

theorem isBlock_take {data : Bytes} (h : data ≠ []) :
    IsBlock (data.take blockSize) (data.drop blockSize) := by
  have hpos := List.length_pos_iff.2 h
  refine ⟨List.ne_nil_of_length_pos ?_, ?_⟩
  · simp only [List.length_take, blockSize]
    omega
  · by_cases hsize : blockSize ≤ data.length
    · exact .inl (by simp [hsize])
    · have hshort := Nat.not_le.1 hsize
      exact .inr ⟨by simp; omega, List.drop_eq_nil_of_le (Nat.le_of_lt hshort)⟩

theorem IsBlock.take_append {block rest : Bytes} (h : IsBlock block rest) :
    (block ++ rest).take blockSize = block := by
  rcases h.2 with hfull | ⟨hshort, rfl⟩
  · rw [← hfull, List.take_left]
  · rw [List.append_nil, List.take_of_length_le (Nat.le_of_lt hshort)]

theorem IsBlock.drop_append {block rest : Bytes} (h : IsBlock block rest) :
    (block ++ rest).drop blockSize = rest := by
  rcases h.2 with hfull | ⟨hshort, rfl⟩
  · rw [← hfull, List.drop_left]
  · rw [List.append_nil, List.drop_eq_nil_of_le (Nat.le_of_lt hshort)]

/-- A block at the front is combined, and the rest is chained from it. -/
theorem chain_append (d : Direction) (secret previous : Bytes) {block rest : Bytes}
    (h : IsBlock block rest) :
    chain d secret previous (block ++ rest) =
      Bytes.xor block (MD5.digest (secret ++ previous)) ++
        chain d secret (d.link block (Bytes.xor block (MD5.digest (secret ++ previous)))) rest := by
  have htake := h.take_append
  have hdrop := h.drop_append
  obtain ⟨first, tail, rfl⟩ := List.exists_cons_of_ne_nil h.1
  rw [List.cons_append] at htake hdrop ⊢
  cases d with
  | hide => rw [chain, htake, hdrop]; rfl
  | reveal => rw [chain, htake, hdrop]; rfl

/-- A block that has been combined is at the front of what comes out. -/
theorem IsBlock.combined {block rest : Bytes} (h : IsBlock block rest) (d : Direction)
    (secret link message : Bytes) :
    IsBlock (Bytes.xor block (MD5.digest message)) (chain d secret link rest) := by
  obtain ⟨hne, hsize⟩ := h
  have hpos := List.length_pos_iff.2 hne
  have hle : block.length ≤ blockSize := hsize.elim Nat.le_of_eq fun h => Nat.le_of_lt h.1
  have hlength : (Bytes.xor block (MD5.digest message)).length = block.length := by
    rw [Bytes.length_xor, MD5.length_digest]
    exact Nat.min_eq_left hle
  refine ⟨List.ne_nil_of_length_pos (hlength ▸ hpos), ?_⟩
  rw [hlength]
  refine hsize.imp_right fun ⟨hshort, hrest⟩ => ⟨hshort, ?_⟩
  rw [hrest, chain]

/-- What one direction makes of a text is turned back by the other. -/
theorem chain_reversed (d : Direction) (secret previous data : Bytes) :
    chain d.reversed secret previous (chain d secret previous data) = data := by
  -- The rest after the first block is shorter and is chained from the same hidden block again.
  induction hsize : data.length using Nat.strongRecOn generalizing previous data with
  | ind n ih =>
    by_cases hdata : data = []
    · rw [hdata, chain, chain]
    have hblock := isBlock_take hdata
    have hrest : (data.drop blockSize).length < n := by
      have hpos := List.length_pos_iff.2 hdata
      simp only [List.length_drop, blockSize]
      omega
    have hle : (data.take blockSize).length ≤ (MD5.digest (secret ++ previous)).length := by
      rw [MD5.length_digest]
      exact List.length_take_le blockSize data
    have hhidden := chain_append d secret previous hblock
    rw [List.take_append_drop] at hhidden
    rw [hhidden, chain_append d.reversed secret previous (hblock.combined d secret _ _),
      Bytes.xor_xor hle, d.link_reversed, ih _ hrest _ _ rfl, List.take_append_drop]

/-- A password is padded to whole blocks, at least one. -/
theorem length_padded (password : Bytes) :
    (padded password).length =
      max blockSize ((password.length + 15) / blockSize * blockSize) := by
  simp only [padded, blockSize, List.length_append, Bytes.length_zeros]
  omega

/-- A hidden password is one or more whole blocks. -/
theorem hide_padded_whole (secret authenticator password : Bytes) :
    hide secret authenticator (padded password) ≠ [] ∧
      (hide secret authenticator (padded password)).length % blockSize = 0 := by
  have hlength : (hide secret authenticator (padded password)).length = (padded password).length :=
    length_chain .hide secret authenticator (padded password)
  rw [hlength, length_padded]
  refine ⟨List.ne_nil_of_length_pos ?_, ?_⟩
  · rw [hlength, length_padded, blockSize]
    omega
  · rw [blockSize]
    omega

/-- What is revealed of a hidden password differs from it in the zeros at the end alone. -/
theorem trimZeros_reveal_hide (secret authenticator password : Bytes) :
    Bytes.trimZeros (reveal secret authenticator (hide secret authenticator (padded password))) =
      Bytes.trimZeros password := by
  have hrevealed : reveal secret authenticator (hide secret authenticator (padded password)) =
      padded password := chain_reversed .hide secret authenticator _
  rw [hrevealed, padded, Bytes.trimZeros_append_zeros]

end Password

end Radius
