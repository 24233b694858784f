import Radius.Bytes

/-!
# The MD5 message digest

A message is padded to a multiple of 64 bytes (`pad`), each block of sixteen little-endian words
is mixed into four chaining words in 64 steps (`compress`), and the digest is the final chaining
words in little-endian order (`digest`).

`length_digest` : a digest has sixteen bytes.
-/

namespace Radius.MD5

/-- The four chaining words. -/
structure State where
  a : UInt32
  b : UInt32
  c : UInt32
  d : UInt32

/-- The chaining words before the first block. -/
def State.start : State := ⟨0x67452301, 0xefcdab89, 0x98badcfe, 0x10325476⟩

/-- The additive constant of each step: the integer part of `2 ^ 32 · |sin (i + 1)|`. -/
def additives : List UInt32 := [
  0xd76aa478, 0xe8c7b756, 0x242070db, 0xc1bdceee, 0xf57c0faf, 0x4787c62a, 0xa8304613, 0xfd469501,
  0x698098d8, 0x8b44f7af, 0xffff5bb1, 0x895cd7be, 0x6b901122, 0xfd987193, 0xa679438e, 0x49b40821,
  0xf61e2562, 0xc040b340, 0x265e5a51, 0xe9b6c7aa, 0xd62f105d, 0x02441453, 0xd8a1e681, 0xe7d3fbc8,
  0x21e1cde6, 0xc33707d6, 0xf4d50d87, 0x455a14ed, 0xa9e3e905, 0xfcefa3f8, 0x676f02d9, 0x8d2a4c8a,
  0xfffa3942, 0x8771f681, 0x6d9d6122, 0xfde5380c, 0xa4beea44, 0x4bdecfa9, 0xf6bb4b60, 0xbebfbc70,
  0x289b7ec6, 0xeaa127fa, 0xd4ef3085, 0x04881d05, 0xd9d4d039, 0xe6db99e5, 0x1fa27cf8, 0xc4ac5665,
  0xf4292244, 0x432aff97, 0xab9423a7, 0xfc93a039, 0x655b59c3, 0x8f0ccc92, 0xffeff47d, 0x85845dd1,
  0x6fa87e4f, 0xfe2ce6e0, 0xa3014314, 0x4e0811a1, 0xf7537e82, 0xbd3af235, 0x2ad7d2bb, 0xeb86d391]

/-- How far step `i` rotates: each round of sixteen steps has a cycle of four amounts. -/
def rotation (i : Nat) : UInt32 :=
  match i / 16, i % 4 with
  | 0, 0 => 7  | 0, 1 => 12 | 0, 2 => 17 | 0, _ => 22
  | 1, 0 => 5  | 1, 1 => 9  | 1, 2 => 14 | 1, _ => 20
  | 2, 0 => 4  | 2, 1 => 11 | 2, 2 => 16 | 2, _ => 23
  | _, 0 => 6  | _, 1 => 10 | _, 2 => 15 | _, _ => 21

/-- The word of the block that step `i` mixes in. -/
def wordIndex (i : Nat) : Nat :=
  match i / 16 with
  | 0 => i
  | 1 => (5 * i + 1) % 16
  | 2 => (3 * i + 5) % 16
  | _ => (7 * i) % 16

/-- The bitwise function of step `i`. -/
def mix (i : Nat) (b c d : UInt32) : UInt32 :=
  match i / 16 with
  | 0 => (b &&& c) ||| (~~~b &&& d)
  | 1 => (d &&& b) ||| (~~~d &&& c)
  | 2 => b ^^^ c ^^^ d
  | _ => c ^^^ (b ||| ~~~d)

/-- A word turned by `n` bits to the left. -/
def rotateLeft (x n : UInt32) : UInt32 := (x <<< n) ||| (x >>> (32 - n))

/-- Step `i` with its additive constant. -/
def step (words : Array UInt32) (s : State) (i : Nat) (additive : UInt32) : State :=
  let f := mix i s.b s.c s.d + s.a + additive + words.getD (wordIndex i) 0
  ⟨s.d, s.b + rotateLeft f (rotation i), s.b, s.c⟩

/-- Mix one block of sixteen words into the chaining words. -/
def compress (s : State) (words : Array UInt32) : State :=
  let t := additives.zipIdx.foldl (fun t k => step words t k.2 k.1) s
  ⟨s.a + t.a, s.b + t.b, s.c + t.c, s.d + t.d⟩

/-- A word in four bytes, the lowest first. -/
def wordBytes (w : UInt32) : Bytes :=
  [w.toUInt8, (w >>> 8).toUInt8, (w >>> 16).toUInt8, (w >>> 24).toUInt8]

/-- Bytes in groups of four as words, the lowest byte first. -/
def toWords : Bytes → List UInt32
  | a :: b :: c :: d :: rest =>
    (a.toUInt32 ||| b.toUInt32 <<< 8 ||| c.toUInt32 <<< 16 ||| d.toUInt32 <<< 24) :: toWords rest
  | _ => []

/-- The message, a byte `0x80`, zeros up to 8 bytes short of a whole block, and the number of
message bits in eight bytes, the lowest first. -/
def pad (m : Bytes) : Bytes :=
  let bits := UInt64.ofNat (8 * m.length)
  m ++ (0x80 :: Bytes.zeros ((119 - m.length % 64) % 64)) ++
    wordBytes bits.toUInt32 ++ wordBytes (bits >>> 32).toUInt32

/-- Mix all blocks of sixteen words, in order. -/
def absorb (s : State) (words : List UInt32) : State :=
  match words with
  | [] => s
  | w :: rest => absorb (compress s (w :: rest.take 15).toArray) (rest.drop 15)
termination_by words.length
decreasing_by simp only [List.length_drop, List.length_cons]; omega

/-- The MD5 digest of a message. -/
def digest (m : Bytes) : Bytes :=
  let s := absorb .start (toWords (pad m))
  wordBytes s.a ++ wordBytes s.b ++ wordBytes s.c ++ wordBytes s.d

@[simp] theorem length_wordBytes (w : UInt32) : (wordBytes w).length = 4 := rfl

@[simp] theorem length_digest (m : Bytes) : (digest m).length = 16 := by
  simp [digest]

end Radius.MD5
