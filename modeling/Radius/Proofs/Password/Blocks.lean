import Radius.Proofs.Packet.Attributes
import Radius.Proofs.Password

/-!
# Passwords hidden block by block

`Password.Hides` is the rule of RFC 2865, section 5.2, without the loop that applies it : every
block of the hidden text is the block of the plain text, combined with the digest of the secret and
of the hidden block before it. A text has one hidden form, the one that hiding makes of it
(`Password.hides_iff_hide`), and it is the hidden form of one text, the one that is revealed from it
(`Password.hides_iff_reveal`). Nothing is assumed of the digest but its size.
-/

namespace Radius.Password

/-- Block `i` of a text : sixteen bytes, fewer at the end of the text, none after it. -/
def block (i : Nat) (text : Bytes) : Bytes := (text.drop (blockSize * i)).take blockSize

/-- What is digested with the secret for block `i` : the hidden block before it, or the
authenticator if it is the first one. -/
def linkTo (authenticator hidden : Bytes) : Nat → Bytes
  | 0 => authenticator
  | i + 1 => block i hidden

/-- A text is the hidden form of another : block by block the exclusive or with the digest of the
secret and the link to the block, up to the end of a shorter last block. -/
def Hides (secret authenticator plain hidden : Bytes) : Prop :=
  ∀ i, block i hidden =
    Bytes.xor (block i plain) (MD5.digest (secret ++ linkTo authenticator hidden i))

/-! ## Blocks -/

theorem block_succ (i : Nat) (text : Bytes) :
    block (i + 1) text = block i (text.drop blockSize) := by
  rw [block, block, List.drop_drop, Nat.mul_succ, Nat.add_comm]

/-- After the first block, the links are those of the rest of the text. -/
theorem linkTo_drop (hidden : Bytes) (i : Nat) :
    linkTo (block 0 hidden) (hidden.drop blockSize) i = block i hidden := by
  cases i with
  | zero => rfl
  | succ i => exact (block_succ i hidden).symm

/-- A text is known by its blocks. -/
theorem ext_block {a b : Bytes} (h : ∀ i, block i a = block i b) : a = b := by
  refine List.ext_getElem? fun n => ?_
  have hlt : n % blockSize < blockSize := Nat.mod_lt n (by decide)
  have hread (text : Bytes) : text[n]? = (block (n / blockSize) text)[n % blockSize]? := by
    rw [block, List.getElem?_take_of_lt hlt, List.getElem?_drop, Nat.div_add_mod]
  rw [hread, h, ← hread]

theorem take_chain (d : Direction) (secret previous data : Bytes) :
    (chain d secret previous data).take blockSize =
      Bytes.xor (data.take blockSize) (MD5.digest (secret ++ previous)) := by
  by_cases hdata : data = []
  · rw [hdata, chain]
    rfl
  · have hblock := isBlock_take hdata
    have hchain := chain_append d secret previous hblock
    rw [List.take_append_drop] at hchain
    rw [hchain, (hblock.combined d secret _ _).take_append]

theorem drop_chain (d : Direction) (secret previous data : Bytes) :
    (chain d secret previous data).drop blockSize =
      chain d secret
        (d.link (data.take blockSize) ((chain d secret previous data).take blockSize))
        (data.drop blockSize) := by
  by_cases hdata : data = []
  · rw [hdata, List.drop_nil, chain, chain]
    rfl
  · have hblock := isBlock_take hdata
    have hchain := chain_append d secret previous hblock
    rw [List.take_append_drop] at hchain
    rw [take_chain, hchain, (hblock.combined d secret _ _).drop_append]

/-! ## The hidden form of a text -/

/-- Hiding follows the rule. -/
theorem hides_hide (secret authenticator plain : Bytes) :
    Hides secret authenticator plain (hide secret authenticator plain) := by
  intro i
  induction i generalizing authenticator plain with
  | zero => exact take_chain .hide secret authenticator plain
  | succ i ih =>
    -- The rest is hidden from the first hidden block on, which is the link to it.
    have hrest : (hide secret authenticator plain).drop blockSize =
        hide secret (block 0 (hide secret authenticator plain)) (plain.drop blockSize) :=
      drop_chain .hide secret authenticator plain
    rw [block_succ, block_succ, hrest, ih, ← hrest, linkTo_drop, linkTo]

/-- A text has one hidden form. -/
theorem Hides.unique {secret authenticator plain hidden other : Bytes}
    (h : Hides secret authenticator plain hidden)
    (hother : Hides secret authenticator plain other) : hidden = other := by
  refine ext_block fun i => ?_
  induction i with
  | zero => exact (h 0).trans (hother 0).symm
  | succ i ih => rw [h (i + 1), hother (i + 1), linkTo, linkTo, ih]

theorem reveal_hide (secret authenticator data : Bytes) :
    reveal secret authenticator (hide secret authenticator data) = data :=
  chain_reversed .hide secret authenticator data

theorem hide_reveal (secret authenticator data : Bytes) :
    hide secret authenticator (reveal secret authenticator data) = data :=
  chain_reversed .reveal secret authenticator data

theorem hides_iff_hide {secret authenticator plain hidden : Bytes} :
    Hides secret authenticator plain hidden ↔ hidden = hide secret authenticator plain := by
  constructor
  · exact fun h => h.unique (hides_hide secret authenticator plain)
  · rintro rfl
    exact hides_hide secret authenticator plain

theorem hides_iff_reveal {secret authenticator plain hidden : Bytes} :
    Hides secret authenticator plain hidden ↔ plain = reveal secret authenticator hidden := by
  rw [hides_iff_hide]
  constructor
  · rintro rfl
    exact (reveal_hide secret authenticator plain).symm
  · rintro rfl
    exact (hide_reveal secret authenticator hidden).symm

/-- Hiding and revealing are defined on all byte strings, undo each other and keep the length. What
hiding makes of a text is its one hidden form, and what is revealed from a text is the one text that
it hides. -/
theorem hide_reveal_inverse (secret authenticator data : Bytes) :
    (∀ direction, chainOf direction (.bytes data) (.bytes secret) (.bytes authenticator) =
        .ok (chain direction secret authenticator data)) ∧
      reveal secret authenticator (hide secret authenticator data) = data ∧
      hide secret authenticator (reveal secret authenticator data) = data ∧
      (hide secret authenticator data).length = data.length ∧
      (reveal secret authenticator data).length = data.length ∧
      (∀ hidden, Hides secret authenticator data hidden ↔
        hidden = hide secret authenticator data) ∧
      ∀ plain, Hides secret authenticator plain data ↔
        plain = reveal secret authenticator data := by
  refine ⟨fun direction => chainOf_bytes direction data secret authenticator,
    reveal_hide secret authenticator data, hide_reveal secret authenticator data,
    length_chain .hide secret authenticator data, length_chain .reveal secret authenticator data,
    fun _ => hides_iff_hide, fun _ => hides_iff_reveal⟩

end Radius.Password
