/-!
# Byte strings

Byte strings are lists of bytes. Numbers on the wire are big-endian, in two or four bytes
(`Bytes.be16`, `Bytes.be32`), and a field of fixed size cuts what is longer and fills what is
shorter with zeros (`Bytes.fit`).

`Bytes.xor` combines two strings byte by byte up to the end of the shorter one.
-/

namespace Radius

/-- A string of bytes. -/
abbrev Bytes := List UInt8

namespace Bytes

/-- `n` zero bytes. -/
def zeros (n : Nat) : Bytes := List.replicate n 0

/-- Exactly `n` bytes: the first `n` of `b`, with zeros after its end. -/
def fit (n : Nat) (b : Bytes) : Bytes := b.take n ++ zeros (n - b.length)

@[simp] theorem length_zeros (n : Nat) : (zeros n).length = n := by simp [zeros]

@[simp] theorem length_fit (n : Nat) (b : Bytes) : (fit n b).length = n := by
  simp [fit]; omega

/-- A string of the right size fits as it is. -/
theorem fit_eq_self {n : Nat} {b : Bytes} (h : b.length = n) : fit n b = b := by
  simp [fit, zeros, ← h]

/-- A number below `2 ^ 16` in two bytes, the higher first. -/
def be16 (n : Nat) : Bytes := [UInt8.ofNat (n / 256), UInt8.ofNat n]

/-- A number below `2 ^ 32` in four bytes, the highest first. -/
def be32 (n : Nat) : Bytes :=
  [UInt8.ofNat (n / 16777216), UInt8.ofNat (n / 65536), UInt8.ofNat (n / 256), UInt8.ofNat n]

/-- The number a byte string spells in base 256, the first byte the highest. -/
def toNat (b : Bytes) : Nat := b.foldl (fun n d => n * 256 + d.toNat) 0

theorem toNat_be16 {n : Nat} (h : n < 65536) : toNat (be16 n) = n := by
  simp [toNat, be16]; omega

theorem toNat_be32 {n : Nat} (h : n < 4294967296) : toNat (be32 n) = n := by
  simp [toNat, be32]; omega

/-- Byte by byte exclusive or, as long as the shorter string. -/
def xor (a b : Bytes) : Bytes := List.zipWith (· ^^^ ·) a b

@[simp] theorem length_xor (a b : Bytes) : (xor a b).length = min a.length b.length := by
  simp [xor]

/-- The string without its trailing zero bytes. -/
def trimZeros (b : Bytes) : Bytes := (b.reverse.dropWhile (· == 0)).reverse

end Bytes

end Radius
