import DeviceSecurity.Curve.Point
import DeviceSecurity.Der.SubjectKey

/-!
# Peer keys

The public key of a peer is a point other than infinity on an agreed curve. It is read from an
encoded point or from a `SubjectPublicKeyInfo` around one, and every fault is reported as an
invalid peer key.
-/

namespace DeviceSecurity

/-- A public key: a curve and a point. -/
structure PeerKey where
  curve : Curve
  point : Point
deriving DecidableEq, Repr

namespace PeerKey

/-- The key in an encoded point. -/
def ofPointBytes (c : Curve) (b : Bytes) : Except Error PeerKey :=
  match c.decode b with
  | some point => .ok ⟨c, point⟩
  | none => .error (.invalidPeerKey ("not a point on " ++ c.name))

/-- The key in an encoded point or, when the first byte opens a DER sequence, in a
`SubjectPublicKeyInfo`. -/
def ofBytes (c : Curve) : Bytes → Except Error PeerKey
  | [] => .error (.invalidPeerKey "empty key")
  | tag :: rest =>
    if tag = 0x30 then
      match Der.SubjectKey.read? (tag :: rest) with
      | some (spki, _) => ofPointBytes c spki.key
      | none => .error (.invalidPeerKey "bad SubjectPublicKeyInfo: <x509>")
    else ofPointBytes c (tag :: rest)

/-- The uncompressed point. -/
def pointBytes (k : PeerKey) : Bytes := k.curve.encode k.point

/-- The `SubjectPublicKeyInfo`: the header of the curve and the uncompressed point. -/
def spkiBytes (k : PeerKey) : Bytes := k.curve.spkiPrefix ++ k.pointBytes

/-- The diagnostic form. -/
def debug (k : PeerKey) : String :=
  "PeerPublicKey(" ++ k.curve.name ++ ", " ++ k.pointBytes.toHex ++ ")"

end PeerKey

end DeviceSecurity
