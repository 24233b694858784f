import Radius.Hash.MD5
import Radius.Packet.Error

/-!
# Password hiding

A password is hidden in blocks of sixteen bytes. Each block is combined by exclusive or with the
MD5 digest of the secret and the hidden block before it, the first one with the digest of the
secret and the authenticator (`Password.chain`). Hiding and revealing walk the blocks alike and
differ in which of the two texts they chain from.

`padded` fills a password with zeros to whole blocks, at least one. `length_chain` : hiding and
revealing keep the length.
-/

namespace Radius.Password

/-- Bytes of a block. -/
def blockSize : Nat := 16

/-- The longest password. -/
def maxSize : Nat := 128

/-- Which of the two texts goes in. -/
inductive Direction where
  | hide
  | reveal
  deriving DecidableEq, Repr

/-- Combine the blocks of `data` with the chain of digests that starts from `previous`. The chain
follows the hidden blocks: what comes out when hiding, what goes in when revealing. -/
def chain (direction : Direction) (secret previous data : Bytes) : Bytes :=
  match data with
  | [] => []
  | first :: rest =>
    let block := (first :: rest).take blockSize
    let out := Bytes.xor block (MD5.digest (secret ++ previous))
    let next := match direction with
      | .hide => out
      | .reveal => block
    out ++ chain direction secret next ((first :: rest).drop blockSize)
termination_by data.length
decreasing_by simp only [blockSize, List.length_drop, List.length_cons]; omega

/-- A padded password hidden under a secret and an authenticator. -/
def hide (secret authenticator data : Bytes) : Bytes := chain .hide secret authenticator data

/-- A hidden password in its padded form. -/
def reveal (secret authenticator data : Bytes) : Bytes := chain .reveal secret authenticator data

theorem length_chain (direction : Direction) (secret previous data : Bytes) :
    (chain direction secret previous data).length = data.length := by
  fun_induction chain direction secret previous data with
  | case1 => rfl
  | case2 previous first rest block out next ih =>
    simp [out, block, blockSize] at ih ⊢
    omega

/-- The password with zeros up to the next whole block, at least one block. -/
def padded (password : Bytes) : Bytes :=
  let size := max blockSize ((password.length + 15) / blockSize * blockSize)
  password ++ Bytes.zeros (size - password.length)

/-! ## Values of any kind -/

/-- A value as the bytes that a digest is combined with. -/
def toMaskable (v : Value) : Except OperandError Bytes :=
  let maskable : Value → Except OperandError UInt8 := fun item =>
    if item.toInteger?.isNone then .error (.noOperator "^" item.kind .integer) else item.toByte
  match v.toBytes? with
  | some b => .ok b
  | none => do (← v.items).mapM maskable

/-- The chain over fields of any kind. Nothing to combine needs no key. The rest of a list cannot
follow the secret, so revealing a list ends after its first block. -/
def chainOf (direction : Direction) (data secret authenticator : Value) :
    Except OperandError Bytes := do
  let size ← data.length
  if size = 0 then return []
  let _ ← (← secret.append authenticator).toHashInput
  let listed := direction == .reveal && data.toBytes?.isNone && blockSize < size
  if listed then
    let items ← data.items
    let _ ← toMaskable (.list (items.take blockSize))
    let _ ← secret.append data
  let bytes ← toMaskable data
  return chain direction (secret.toBytes?.getD []) (authenticator.toBytes?.getD []) bytes

end Radius.Password
