import DeviceSecurity.Base64
import DeviceSecurity.Error
import DeviceSecurity.Hash.Hmac

/-!
# Cipher keys

A cipher key is 16, 24 or 32 bytes. It is given as bytes or as base64, or derived: from an agreed
secret (`forChannel`) or from a text (`forStorage`). A secret that already is a key is used as it
stands; any other goes through HKDF with a label of its own.
-/

namespace DeviceSecurity

/-- A key of one of the three AES sizes. -/
structure CipherKey where
  bytes : Bytes
  size : bytes.length = 16 ∨ bytes.length = 24 ∨ bytes.length = 32
deriving DecidableEq, Repr

namespace CipherKey

/-- A key from its bytes. -/
def ofBytes (b : Bytes) : Except Error CipherKey :=
  if h : b.length = 16 ∨ b.length = 24 ∨ b.length = 32 then .ok ⟨b, h⟩
  else .error (.invalidKey s!"AES-GCM keys are 16, 24 or 32 bytes, got {b.length}")

/-- A key from base64, without blanks around it. -/
def ofBase64 (text : String) : Except Error CipherKey :=
  match Base64.decode .standard text with
  | .ok b => ofBytes b
  | .error fault => .error (.invalidKey ("key is not base64: " ++ fault.message))

/-- The bytes in a key. -/
def length (k : CipherKey) : Nat := k.bytes.length

/-- Whether a key has no bytes, which no key has. -/
def isEmpty (k : CipherKey) : Bool := k.bytes.isEmpty

/-- The diagnostic form, which leaves the key out. -/
def debug (k : CipherKey) : String := s!"EncryptionKey(AES-{k.bytes.length * 8}, <redacted>)"

/-! ## Derivation -/

/-- The bytes in a derived key. -/
def derivedSize : Nat := 32

/-- The label of keys for channels. -/
def channelLabel : Bytes := Bytes.ofText "warden-channel-key-v1"

/-- The label of keys for storage. -/
def storageLabel : Bytes := Bytes.ofText "warden-storage-key-v1"

/-- A key from secret material and a label. -/
def derive (material label : Bytes) : Except Error CipherKey :=
  match Hkdf.expand (Hkdf.extract none material) label derivedSize with
  | some key => ofBytes key
  | none => .error (.internal "HKDF expansion failed")

/-- The key of a channel with this agreed secret. -/
def forChannel (secret : Bytes) : Except Error CipherKey :=
  if secret.isEmpty then .error (.invalidKey "empty shared secret")
  else if secret.length = derivedSize then ofBytes secret
  else derive secret channelLabel

/-- The key of storage under this secret text: the bytes it is base64 of if they make a key, else
one derived from its UTF-8 bytes. -/
def forStorage (secret : String) : Except Error CipherKey :=
  if secret.isEmpty then .error (.invalidKey "empty storage secret")
  else
    let derived := derive (Bytes.ofText secret) storageLabel
    match Base64.decode .standard secret with
    | .ok b =>
      if b.length = 16 ∨ b.length = 24 ∨ b.length = 32 then ofBytes b else derived
    | .error _ => derived

end CipherKey

end DeviceSecurity
