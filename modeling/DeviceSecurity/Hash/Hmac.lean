import DeviceSecurity.Hash.Sha256

/-!
# Keyed hashing and key derivation

`hmac` is HMAC-SHA256 (RFC 2104); `extract` and `expand` are the two steps of HKDF-SHA256
(RFC 5869), which turn secret material of any shape into keys.
-/

namespace DeviceSecurity

namespace Hmac

/-- The bytes in a block of the underlying hash. -/
def blockSize : Nat := 64

/-- A key brought to one block: hashed if it is longer, then filled with zeros. -/
def blockKey (key : Bytes) : Bytes :=
  let short := if blockSize < key.length then Sha256.digest key else key
  short ++ List.replicate (blockSize - short.length) 0

/-- The 32-byte authentication code of `message` under `key`. -/
def hmac (key message : Bytes) : Bytes :=
  let k := blockKey key
  let inner := Sha256.digest (k.map (· ^^^ 0x36) ++ message)
  Sha256.digest (k.map (· ^^^ 0x5c) ++ inner)

/-- A code is 32 bytes long. -/
@[simp] theorem length_hmac (key message : Bytes) : (hmac key message).length = 32 := by
  simp [hmac]

end Hmac

namespace Hkdf

open Hmac

/-- A pseudorandom key from secret material; no salt counts as 32 zero bytes. -/
def extract (salt : Option Bytes) (material : Bytes) : Bytes :=
  hmac (salt.getD (List.replicate 32 0)) material

/-- The blocks of output from number `next` on, each keyed by the one before. -/
def expandBlocks (key info : Bytes) : (count next : Nat) → (previous : Bytes) → Bytes
  | 0, _, _ => []
  | count + 1, next, previous =>
    let block := hmac key (previous ++ info ++ [UInt8.ofNat next])
    block ++ expandBlocks key info count (next + 1) block

/-- `length` bytes of output bound to `info`; at most 255 blocks can be asked for. -/
def expand (key info : Bytes) (length : Nat) : Option Bytes :=
  if length ≤ 255 * 32 then
    some ((expandBlocks key info ((length + 31) / 32) 1 []).take length)
  else none

theorem length_expandBlocks (key info : Bytes) (count next : Nat) (previous : Bytes) :
    (expandBlocks key info count next previous).length = count * 32 := by
  induction count generalizing next previous with
  | zero => simp [expandBlocks]
  | succ n ih => simp [expandBlocks, ih]; omega

/-- What is asked for is what comes. -/
theorem length_of_expand {key info out : Bytes} {length : Nat}
    (h : expand key info length = some out) : out.length = length := by
  unfold expand at h
  split at h
  · obtain rfl := Option.some.inj h
    simp [length_expandBlocks]
    omega
  · simp at h

end Hkdf

end DeviceSecurity
