import DeviceSecurity.Curve.Ecdsa
import DeviceSecurity.Curve.Ed25519
import DeviceSecurity.Rsa
import DeviceSecurity.Trust.Certificate

/-!
# Signatures of certificates

The algorithm of a signature names a scheme, with a digest where the scheme needs one; the key of
the issuer names its own algorithm, with a curve where there are several. A signature can be
checked when the key is one of the scheme.
-/

namespace DeviceSecurity.Trust

open Encoding

/-! ## Schemes -/

/-- A way to sign. -/
inductive SignatureScheme where
  | ecdsa (digest : DigestAlgorithm)
  | ed25519
  /-- RSA with a fixed filling. -/
  | rsa (digest : DigestAlgorithm)
  /-- RSA with salt and mask. -/
  | rsaSalted (digest : DigestAlgorithm)
deriving DecidableEq, Repr

/-- The public key of an issuer, as its algorithm says to read it. -/
inductive IssuerKey where
  | elliptic (curve : Curve) (encoded : Bytes)
  | edwards (encoded : Bytes)
  | rsa (encoded : Bytes)
deriving DecidableEq, Repr

/-- The start of the identifiers of RSA, 1.2.840.113549.1.1. -/
def rsaArc : Bytes := [0x06, 0x09, 0x2a, 0x86, 0x48, 0x86, 0xf7, 0x0d, 0x01, 0x01]

/-- The identifier of Ed25519, 1.3.101.112. -/
def ed25519Identifier : Bytes := [0x06, 0x03, 0x2b, 0x65, 0x70]

namespace SignatureScheme

/-- The identifier of RSA with salt and mask: digest, mask by the same digest, and length of the
salt. -/
def saltedIdentifier (d : DigestAlgorithm) : Bytes :=
  let tagged (place : UInt8) (content : Bytes) :=
    constructedAt place :: UInt8.ofNat content.length :: content
  let maskBy := rsaArc ++ [0x08] ++ d.identifier
  let content := tagged 0 d.identifier ++
    tagged 1 (0x30 :: UInt8.ofNat maskBy.length :: maskBy) ++
    tagged 2 [0x02, 0x01, UInt8.ofNat d.size]
  rsaArc ++ [0x0a] ++ (0x30 :: UInt8.ofNat content.length :: content)

/-- The content of the identifier of a scheme. ECDSA with SHA-256 and SHA-384 is 1.2.840.10045.4.3
with 2 and 3, RSA with a fixed filling is the arc of RSA with 11 to 13. -/
def identifier : SignatureScheme → Bytes
  | ecdsa d =>
    [0x06, 0x08, 0x2a, 0x86, 0x48, 0xce, 0x3d, 0x04, 0x03, place d 2 3 4]
  | ed25519 => ed25519Identifier
  | rsa d => rsaArc ++ [place d 0x0b 0x0c 0x0d, 0x05, 0x00]
  | rsaSalted d => saltedIdentifier d
where
  place (d : DigestAlgorithm) (a b c : UInt8) : UInt8 :=
    match d with
    | .sha256 => a
    | .sha384 => b
    | .sha512 => c

/-- The schemes that are accepted. -/
def all : List SignatureScheme :=
  [ecdsa .sha256, ecdsa .sha384, ed25519, rsa .sha256, rsa .sha384, rsa .sha512,
    rsaSalted .sha256, rsaSalted .sha384, rsaSalted .sha512]

/-- The scheme with an identifier. -/
def ofIdentifier? (identifier : Bytes) : Option SignatureScheme :=
  all.find? fun s => s.identifier == identifier

end SignatureScheme

/-! ## Keys -/

/-- The key with an algorithm. -/
def IssuerKey.ofAlgorithm? (algorithm key : Bytes) : Option IssuerKey :=
  let elliptic : Bytes := [0x06, 0x07, 0x2a, 0x86, 0x48, 0xce, 0x3d, 0x02, 0x01]
  if algorithm = elliptic ++ [0x06, 0x08, 0x2a, 0x86, 0x48, 0xce, 0x3d, 0x03, 0x01, 0x07] then
    some (.elliptic .p256 key)
  else if algorithm = elliptic ++ [0x06, 0x05, 0x2b, 0x81, 0x04, 0x00, 0x22] then
    some (.elliptic .p384 key)
  else if algorithm = ed25519Identifier then some (.edwards key)
  else if algorithm = rsaArc ++ [0x01, 0x05, 0x00] then some (.rsa key)
  else none

/-- A positive number in its shortest form. -/
def positive? (b : Bytes) : Option Nat :=
  match b with
  | 0 :: x :: rest => if 0x80 ≤ x then some (Bytes.toNat (x :: rest)) else none
  | x :: rest => if x = 0 ∨ 0x80 ≤ x then none else some (Bytes.toNat (x :: rest))
  | [] => none

/-- Reads a sequence of two positive numbers. -/
def positivePair? (b : Bytes) : Option (Nat × Nat) :=
  match (do
    let (content, rest) ← value sequence b
    let (first, more) ← value integer content
    let (second, more) ← value integer more
    atEnd more
    atEnd rest
    return (first, second) : Trusting (Bytes × Bytes)) with
  | .ok (first, second) => do return (← positive? first, ← positive? second)
  | .error _ => none

/-- The point of an uncompressed key. -/
def keyPoint? (c : Curve) (key : Bytes) : Option Point :=
  if key.head? = some 0x04 then c.decode key else none

/-! ## Checking -/

/-- Whether a signature over a message is valid; nothing when the key is not one of the scheme. -/
def SignatureScheme.isValid? (scheme : SignatureScheme) (key : IssuerKey)
    (message signature : Bytes) : Option Bool :=
  match scheme, key with
  | ecdsa d, .elliptic curve key =>
    match keyPoint? curve key, positivePair? signature with
    | some point, some (r, s) => some (EcdsaSignature.isValid curve point (d.digest message) ⟨r, s⟩)
    | _, _ => some false
  | ed25519, .edwards key => some (Ed25519.isValid key message signature)
  | rsa d, .rsa key =>
    some ((positivePair? key).any fun (n, e) => RsaKey.isValidFixed ⟨n, e⟩ d message signature)
  | rsaSalted d, .rsa key =>
    some ((positivePair? key).any fun (n, e) => RsaKey.isValidSalted ⟨n, e⟩ d message signature)
  | _, _ => none

/-- Checks the signature of a certificate against the key of its issuer. -/
def checkSignature (issuerKey : Bytes) (c : Certificate) : Trusting Unit := do
  let some scheme := SignatureScheme.ofIdentifier? c.algorithm | throw .unsupportedAlgorithm
  let (algorithm, b) ← value sequence issuerKey
  let (key, b) ← wholeBits b
  atEnd b
  let some key := IssuerKey.ofAlgorithm? algorithm key | throw .unsupportedAlgorithmForKey
  match scheme.isValid? key c.signedBytes c.signature with
  | some true => return ()
  | some false => throw .invalidSignature
  | none => throw .unsupportedAlgorithmForKey

end DeviceSecurity.Trust
