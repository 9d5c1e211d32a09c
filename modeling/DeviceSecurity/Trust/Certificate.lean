import DeviceSecurity.Trust.Encoding

/-!
# Certificates that trust is built on

A certificate of version 3 in strict encoding, with the extensions that decide about trust. Names
and keys are kept as they are encoded: they are compared, and the key is read when a signature is
checked. A trust anchor is what remains of a certificate whose own signature does not matter, and
neither do the critical extensions that are not looked at.
-/

namespace DeviceSecurity.Trust

open Encoding

/-- The extensions that are looked at. -/
structure Extensions where
  basicConstraints : Option Bytes := none
  alternativeNames : Option Bytes := none
  nameConstraints : Option Bytes := none
  extendedUsage : Option Bytes := none
  keyUsage : Option Bytes := none
  distributionPoints : Option Bytes := none
deriving DecidableEq, Repr

/-- A certificate. -/
structure Certificate where
  /-- The bytes that are signed. -/
  signedBytes : Bytes
  /-- The content of the signature's algorithm identifier. -/
  algorithm : Bytes
  signature : Bytes
  issuer : Bytes
  validity : Bytes
  subject : Bytes
  /-- The content of the `SubjectPublicKeyInfo`. -/
  key : Bytes
  extensions : Extensions
deriving DecidableEq, Repr

/-- A name and a key that are trusted as they are, within name constraints. -/
structure Anchor where
  subject : Bytes
  key : Bytes
  nameConstraints : Option Bytes
deriving DecidableEq, Repr

namespace Extensions

/-- Keeps the value of an extension, which must not have one already. -/
def once (old : Option Bytes) (new : Trusting Bytes) : Trusting (Option Bytes) :=
  match old with
  | some _ => .error .repeatedExtension
  | none => some <$> new

/-- The content of the sequence that an extension's value is. -/
def inSequence (content : Bytes) : Trusting Bytes := do
  let (list, rest) ← value sequence content
  atEndOr .badEncoding rest
  return list

/-- Adds an extension, given by the content of its encoding. If `strict`, unknown ones must not be
critical. -/
def add (strict : Bool) (e : Extensions) (encoded : Bytes) : Trusting Extensions := do
  let (id, b) ← value objectIdentifier encoded
  let (critical, b) ← flag b
  let (content, b) ← value octetString b
  atEnd b
  match id with
  | [0x55, 0x1d, 15] => return { e with keyUsage := ← once e.keyUsage (.ok content) }
  | [0x55, 0x1d, 17] =>
    return { e with alternativeNames := ← once e.alternativeNames (inSequence content) }
  | [0x55, 0x1d, 19] =>
    return { e with basicConstraints := ← once e.basicConstraints (inSequence content) }
  | [0x55, 0x1d, 30] =>
    return { e with nameConstraints := ← once e.nameConstraints (inSequence content) }
  | [0x55, 0x1d, 31] =>
    return { e with distributionPoints := ← once e.distributionPoints (inSequence content) }
  | [0x55, 0x1d, 37] =>
    return { e with extendedUsage := ← once e.extendedUsage (inSequence content) }
  | _ => if strict && critical then throw .unsupportedCriticalExtension else return e

/-- The extensions of a certificate, which stand behind all its other parts. -/
def ofBytes (strict : Bool) (b : Bytes) : Trusting Extensions := do
  if b.isEmpty then return {}
  let (tagged, rest) ← value (constructedAt 3) b
  let (list, inner) ← value sequence tagged
  let e ← (← values sequence list).foldlM (add strict) {}
  atEnd inner
  atEnd rest
  return e

end Extensions

/-- The rest behind the version, which must be 3. -/
def checkVersion (b : Bytes) : Trusting Bytes := do
  match value (constructedAt 0) b with
  | .error _ => throw .unsupportedVersion
  | .ok (tagged, rest) =>
    let (version, inner) ← smallNumber tagged
    if version ≠ 2 then throw .unsupportedVersion
    atEndOr .unsupportedVersion inner
    return rest

namespace Certificate

/-- Reads a certificate. If `strict`, its critical extensions must be known. -/
def read (strict : Bool) (b : Bytes) : Trusting Certificate := do
  let (content, rest) ← value sequence b
  let (signed, outer) ← value sequence content
  let signedBytes := content.take (content.length - outer.length)
  let (algorithm, outer) ← value sequence outer
  let (signature, outer) ← wholeBits outer
  atEnd outer
  atEnd rest
  let b ← checkVersion signed
  let (_, b) ← value integer b
  let (inner, b) ← value sequence b
  if inner ≠ algorithm then throw .algorithmMismatch
  let (issuer, b) ← value sequence b
  let (validity, b) ← value sequence b
  let (subject, b) ← value sequence b
  let (key, b) ← value sequence b
  let extensions ← Extensions.ofBytes strict b
  return { signedBytes, algorithm, signature, issuer, validity, subject, key, extensions }

/-- The certificate of a path. -/
def ofBytes (b : Bytes) : Trusting Certificate := read true b

end Certificate

namespace Anchor

/-- The anchor of a certificate of version 1, which has neither a version nor extensions. -/
def ofVersion1 (b : Bytes) : Trusting Anchor := do
  let (content, rest) ← value sequence b
  let (signed, outer) ← value sequence content
  let (_, outer) ← value sequence outer
  let (_, outer) ← value bitString outer
  atEnd outer
  atEnd rest
  let (_, b) ← value integer signed
  let (_, b) ← value sequence b
  let (_, b) ← value sequence b
  let (_, b) ← value sequence b
  let (subject, b) ← value sequence b
  let (key, b) ← value sequence b
  atEnd b
  return ⟨subject, key, none⟩

/-- The anchor of a certificate. -/
def ofBytes (b : Bytes) : Trusting Anchor :=
  match Certificate.read false b with
  | .ok c => .ok ⟨c.subject, c.key, c.extensions.nameConstraints⟩
  | .error .unsupportedVersion => ofVersion1 b
  | .error fault => .error fault

end Anchor

end DeviceSecurity.Trust
