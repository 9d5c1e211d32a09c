import DeviceSecurity.Der.Name
import DeviceSecurity.Der.Time
import DeviceSecurity.Pin.Digest

/-!
# Certificates as pins see them

What pinning looks at in a certificate: the first common name of its subject, the digests of its
key, and the names of subject and issuer. The certificate is read leniently: what follows it, and
what follows the last expected part of any sequence in it, does not count, and its signature is
not checked.
-/

namespace DeviceSecurity

/-- The parts of a certificate that pinning looks at. -/
structure CertificateInfo where
  encoded : Bytes
  commonName : Option String
  /-- The digest of the `SubjectPublicKeyInfo`. -/
  infoDigest : PinDigest
  /-- The digest of the bits of the key alone. -/
  keyDigest : PinDigest
  /-- The encoding of the subject's name. -/
  subject : Bytes
  /-- The encoding of the issuer's name. -/
  issuer : Bytes
deriving DecidableEq

namespace CertificateInfo

open Der

/-! ## Reading the parts -/

/-- Whether a byte string is the shortest form of a natural number below `2^32`. -/
def isVersionNumber : Bytes → Bool
  | [] => false
  | [x] => x < 0x80
  | x :: y :: rest =>
    x < 0x80 && (x != 0 || 0x80 ≤ y) && (if x = 0 then rest.length ≤ 3 else rest.length ≤ 2)

/-- The rest behind the version, which may be left out. -/
def skipVersion? (b : Bytes) : Option Bytes := do
  if b.isEmpty then return b
  let (e, rest) ← Element.read? b
  if e.tag ≠ 0 then return b
  if e.tagClass ≠ .contextSpecific then none
  let (version, _) ← Element.expect? tagInteger e.content
  if version.constructed || !isVersionNumber version.content then none
  return rest

/-- The rest behind an optional identifier of a name, a bit string under a tag of its own, which
must not be empty. -/
def skipUniqueId? (tag : Nat) (b : Bytes) : Option Bytes :=
  match identifier? b with
  | some ((_, _, actual), _) =>
    if actual ≠ tag then some b
    else
      match Element.read? b with
      | some (e, rest) =>
        if e.tagClass = .contextSpecific ∧ e.content ≠ [] then some rest else none
      | none => none
  | none => some b

/-- The extension at the start of a byte string: a type, maybe a truth value, and bytes. -/
def extension? (b : Bytes) : Option (Unit × Bytes) := do
  let (content, rest) ← sequence? b
  let (_, inner) ← objectIdentifier? content
  let inner := match Element.expect? tagBoolean inner with
    | some (e, after) => if e.content.length = 1 then after else inner
    | none => inner
  let (value, _) ← Element.expect? tagOctetString inner
  if value.constructed then none else return ((), rest)

/-- Whether what follows the key is nothing, or extensions and nothing else. The length that their
tag gives does not count. -/
def endsInExtensions (b : Bytes) : Bool :=
  b.isEmpty ||
    match identifier? b with
    | some ((_, _, 3), b) =>
      match (length? b).bind fun (_, b) => sequence? b with
      | some (list, []) => (readMany extension? list).2.isEmpty
      | _ => false
    | _ => false

/-- The issuer, subject and key of the signed part of a certificate. -/
def signedPart? (content : Bytes) :
    Option (DistinguishedName × DistinguishedName × SubjectKey) := do
  let b ← skipVersion? content
  let b ← skipLoose? tagInteger b
  let (_, b) ← Algorithm.read? b
  let (issuer, b) ← DistinguishedName.read? b
  let (validity, b) ← sequence? b
  let (_, later) ← Time.read? validity
  let _ ← Time.read? later
  let (subject, b) ← DistinguishedName.read? b
  let (key, b) ← SubjectKey.read? b
  let b ← skipUniqueId? 1 b
  let b ← skipUniqueId? 2 b
  if endsInExtensions b then return (issuer, subject, key) else none

/-- Reads a certificate. -/
def ofBytes? (b : Bytes) : Option CertificateInfo := do
  let (content, _) ← sequence? b
  let (signed, signature) ← sequence? content
  let (issuer, subject, key) ← signedPart? signed
  let (_, signature) ← Algorithm.read? signature
  let _ ← bitString? signature
  return {
    encoded := b
    commonName := subject.commonName?
    infoDigest := PinDigest.ofContent key.encoded
    keyDigest := PinDigest.ofContent key.key
    subject := subject.encoded
    issuer := issuer.encoded
  }

/-- What stands for the report of the reader. -/
def unreadable : String := "<x509>"

/-- Reads a certificate, or says that it cannot be read. -/
def ofBytes (b : Bytes) : Except Error CertificateInfo :=
  match ofBytes? b with
  | some c => .ok c
  | none => .error (.invalidCertificate unreadable)

/-! ## Questions -/

/-- Whether one of the key's digests is among the pins. -/
def matchesAny (c : CertificateInfo) (pins : List PinDigest) : Bool :=
  pins.contains c.infoDigest || pins.contains c.keyDigest

/-- Whether subject and issuer have the same name. -/
def isSelfIssued (c : CertificateInfo) : Bool := c.subject == c.issuer

end CertificateInfo

end DeviceSecurity
