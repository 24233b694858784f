import Radius.Bytes

/-!
# UTF-8

`Utf8.encode` writes a text in UTF-8. `Utf8.decode` reads any byte string: each longest beginning
of a character that some character could continue, but this string does not, is read as one
replacement character `U+FFFD`, and so is each byte that begins no character.
-/

namespace Radius.Text.Utf8

/-- A text in UTF-8. -/
def encode (cs : List Char) : Bytes := cs.flatMap String.utf8EncodeChar

/-- What a first byte asks for: how many bytes follow, the range of the next one, and the bits of
the code point it carries itself. -/
structure Lead where
  following : Nat
  low : UInt8
  high : UInt8
  bits : Nat

/-- The first bytes of characters of two to four bytes. The ranges of the second byte leave out the
longer forms of shorter characters, the surrogates and what lies above `U+10FFFF`. -/
def lead? (b : UInt8) : Option Lead :=
  if 0xc2 ≤ b && b ≤ 0xdf then some ⟨1, 0x80, 0xbf, b.toNat - 0xc0⟩
  else if b == 0xe0 then some ⟨2, 0xa0, 0xbf, 0⟩
  else if b == 0xed then some ⟨2, 0x80, 0x9f, 0xd⟩
  else if 0xe1 ≤ b && b ≤ 0xef then some ⟨2, 0x80, 0xbf, b.toNat - 0xe0⟩
  else if b == 0xf0 then some ⟨3, 0x90, 0xbf, 0⟩
  else if b == 0xf4 then some ⟨3, 0x80, 0x8f, 4⟩
  else if 0xf1 ≤ b && b ≤ 0xf3 then some ⟨3, 0x80, 0xbf, b.toNat - 0xf0⟩
  else none

/-- Read the following bytes of a character: its code point if they are all there, and how many of
them belong to it. -/
def following (n : Nat) (low high : UInt8) (code : Nat) : Bytes → Option Nat × Nat
  | bytes =>
    match n, bytes with
    | 0, _ => (some code, 0)
    | _ + 1, [] => (none, 0)
    | n + 1, b :: rest =>
      if low ≤ b && b ≤ high then
        let (c, k) := following n 0x80 0xbf (code * 64 + (b.toNat - 0x80)) rest
        (c, k + 1)
      else (none, 0)

/-- The first character of a nonempty string and how many bytes after the first one it takes. -/
def first (b : UInt8) (rest : Bytes) : Char × Nat :=
  if b < 0x80 then (Char.ofNat b.toNat, 0)
  else match lead? b with
    | none => ('\ufffd', 0)
    | some l =>
      let (c, k) := following l.following l.low l.high l.bits rest
      (c.elim '\ufffd' Char.ofNat, k)

/-- The text of a byte string. -/
def decode : Bytes → List Char
  | [] => []
  | b :: rest =>
    let (c, k) := first b rest
    c :: decode (rest.drop k)
termination_by bytes => bytes.length
decreasing_by simp only [List.length_drop, List.length_cons]; omega

end Radius.Text.Utf8
