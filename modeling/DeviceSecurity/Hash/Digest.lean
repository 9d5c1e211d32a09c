import DeviceSecurity.Hash.Sha256
import DeviceSecurity.Hash.Sha512

/-!
# Digests by name

The hash functions that signatures name, with the identifiers by which they name them.
-/

namespace DeviceSecurity

/-- A hash function. -/
inductive DigestAlgorithm where
  | sha256
  | sha384
  | sha512
deriving DecidableEq, Repr

namespace DigestAlgorithm

/-- The digest of a message. -/
def digest : DigestAlgorithm → Bytes → Bytes
  | sha256 => Sha256.digest
  | sha384 => Sha512.digest384
  | sha512 => Sha512.digest

/-- The number of bytes of a digest. -/
def size : DigestAlgorithm → Nat
  | sha256 => 32
  | sha384 => 48
  | sha512 => 64

/-- The identifier as an `AlgorithmIdentifier`: 2.16.840.1.101.3.4.2 with 1, 2 or 3, and null. -/
def identifier (d : DigestAlgorithm) : Bytes :=
  let last : UInt8 := match d with
    | sha256 => 1
    | sha384 => 2
    | sha512 => 3
  [0x30, 0x0d, 0x06, 0x09, 0x60, 0x86, 0x48, 0x01, 0x65, 0x03, 0x04, 0x02, last, 0x05, 0x00]

end DigestAlgorithm

end DeviceSecurity
