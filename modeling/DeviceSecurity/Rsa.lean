import DeviceSecurity.Curve.Modular
import DeviceSecurity.Hash.Digest

/-!
# RSA signatures

A signature is a number below the modulus; its power with the public exponent spells the digest of
the message, padded in one of two ways: with a fixed filling (`isValidFixed`), or masked together
with a salt (`isValidSalted`). Keys have from 2048 to 8192 bits.
-/

namespace DeviceSecurity

/-- A public key. -/
structure RsaKey where
  modulus : Nat
  exponent : Nat
deriving DecidableEq, Repr

namespace RsaKey

/-- The number of bits of the modulus. -/
def bits (k : RsaKey) : Nat := k.modulus.log2 + 1

/-- The number of bytes of the modulus, and of every signature. -/
def size (k : RsaKey) : Nat := (k.bits + 7) / 8

/-- Whether a key may be used: modulus and exponent are odd and within their limits. -/
def isUsable (k : RsaKey) : Bool :=
  2048 ≤ k.bits && k.bits ≤ 8192 && k.modulus % 2 == 1 && k.exponent % 2 == 1 &&
    3 ≤ k.exponent && k.exponent < 0x200000000

/-- The padded digest that a signature spells. -/
def recover (k : RsaKey) (signature : Bytes) : Option Bytes :=
  let s := Bytes.toNat signature
  if k.isUsable ∧ signature.length = k.size ∧ s < k.modulus then
    some (Bytes.ofNat k.size (Modular.pow k.modulus s k.exponent))
  else none

/-! ## Fixed filling -/

/-- The digest behind its identifier and a filling of ones. -/
def fixedPadding (size : Nat) (d : DigestAlgorithm) (message : Bytes) : Bytes :=
  let digest := d.digest message
  let content := [0x04, UInt8.ofNat d.size] ++ digest
  let named := [0x30, UInt8.ofNat (d.identifier.length + content.length)] ++ d.identifier ++ content
  [0x00, 0x01] ++ List.replicate (size - named.length - 3) 0xff ++ [0x00] ++ named

/-- Whether a signature with a fixed filling is valid. -/
def isValidFixed (k : RsaKey) (d : DigestAlgorithm) (message signature : Bytes) : Bool :=
  k.recover signature == some (fixedPadding k.size d message)

/-! ## Salt and mask -/

/-- The first `length` bytes of the digests of a seed followed by a counter. -/
def mask (d : DigestAlgorithm) (seed : Bytes) (length : Nat) : Bytes :=
  ((List.range (length / d.size + 1)).flatMap fun i => d.digest (seed ++ Bytes.ofNat 4 i)).take
    length

/-- A byte string with its leading bits cleared, as many as given, at most eight. -/
def clearBits (count : Nat) : Bytes → Bytes
  | [] => []
  | x :: rest => UInt8.ofNat (x.toNat % Nat.pow 2 (8 - count)) :: rest

/-- Whether a padded digest is that of a message with a salt as long as a digest: masked filling
and salt, the digest of salt and message, and a fixed end. `spare` leading bits are not used. -/
def isSalted (d : DigestAlgorithm) (message : Bytes) (spare : Nat) (padded : Bytes) : Bool :=
  let room := padded.length - d.size - 1
  let masked := padded.take room
  let digest := (padded.drop room).take d.size
  let plain := clearBits spare (Bytes.xor masked (mask d digest room))
  let salt := plain.drop (room - d.size)
  d.size * 2 + 2 ≤ padded.length && padded.getLast? == some 0xbc &&
    clearBits spare masked == masked &&
    plain.take (room - d.size) == List.replicate (room - d.size - 1) 0 ++ [0x01] &&
    d.digest (List.replicate 8 0 ++ d.digest message ++ salt) == digest

/-- Whether a signature with salt and mask is valid. The padded digest has one bit less than the
modulus. -/
def isValidSalted (k : RsaKey) (d : DigestAlgorithm) (message signature : Bytes) : Bool :=
  match k.recover signature with
  | some padded =>
    if k.bits % 8 = 1 then padded.head? == some 0 && isSalted d message 0 (padded.drop 1)
    else isSalted d message (8 * padded.length - (k.bits - 1)) padded
  | none => false

end RsaKey

end DeviceSecurity
