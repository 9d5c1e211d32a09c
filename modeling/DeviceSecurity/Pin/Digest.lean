import DeviceSecurity.Base64
import DeviceSecurity.Error
import DeviceSecurity.Hash.Sha256
import DeviceSecurity.Text.Basic

/-!
# Pins

A pin names a public key by its SHA-256 digest, written in base64 behind `sha256/`. The prefix is
read in any letter case and may be left out.
-/

namespace DeviceSecurity

/-- The SHA-256 digest of a public key. -/
structure PinDigest where
  bytes : Bytes
  length_eq : bytes.length = 32
deriving DecidableEq

namespace PinDigest

/-- The digest with these bytes, if they are as many as a digest has. -/
def ofBytes? (b : Bytes) : Option PinDigest :=
  if h : b.length = 32 then some ⟨b, h⟩ else none

/-- What stands before the base64 text of a pin. -/
def scheme : List Char := "sha256/".toList

/-- The pin of a digest. -/
def text (d : PinDigest) : String :=
  String.ofList (scheme ++ (Base64.encode .standard d.bytes).toList)

/-- A pin without its prefix, if it has one. -/
def withoutScheme (pin : List Char) : List Char :=
  if (pin.take scheme.length).map Char.toLower = scheme then pin.drop scheme.length else pin

/-- Reads a pin. Blanks around it do not count. -/
def ofText (pin : String) : Except Error PinDigest :=
  let encoded := String.ofList (withoutScheme (Text.trimBy Text.isBlank pin.toList))
  match Base64.decode .standard encoded with
  | .error _ => .error (.invalidPin (pin ++ " is not base64"))
  | .ok b =>
    if h : b.length = 32 then .ok ⟨b, h⟩
    else .error (.invalidPin s!"{pin} decodes to {b.length} bytes, need 32")

/-- The digest of the given bytes. -/
def ofContent (b : Bytes) : PinDigest := ⟨Sha256.digest b, Sha256.length_digest b⟩

end PinDigest

end DeviceSecurity
