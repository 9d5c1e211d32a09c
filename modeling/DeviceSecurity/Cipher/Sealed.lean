import DeviceSecurity.Cipher.Aes
import DeviceSecurity.Cipher.Gcm
import DeviceSecurity.Cipher.Key
import DeviceSecurity.Entropy
import DeviceSecurity.Text.Basic

/-!
# Sealed messages

A sealed message is a nonce, a ciphertext and a tag, written as one base64 text. Sealing and
opening happen in a context, which fixes the key, the mode and the associated data. In
device-bound mode nonce and associated data are constants, so that equal texts seal to equal
messages; in shared-key mode every message draws a fresh nonce.
-/

namespace DeviceSecurity

/-! ## Modes and contexts -/

/-- How nonce and associated data are chosen. -/
inductive SealMode where
  /-- Both are constants. -/
  | deviceBound
  /-- A fresh nonce, and the caller's associated data. -/
  | sharedKey
deriving DecidableEq, Repr

namespace SealMode

/-- The written name of a mode. -/
def name : SealMode → String
  | deviceBound => "device_bound"
  | sharedKey => "shared_key"

/-- The mode used where none is asked for. -/
def default : SealMode := deviceBound

/-- The mode that a name stands for. -/
def ofName? (text : String) : Option SealMode :=
  [deviceBound, sharedKey].find? (·.name == text)

end SealMode

/-- The nonce of device-bound messages. -/
def deviceBoundNonce : Bytes :=
  [0x6e, 0x3d, 0x67, 0x8b, 0x14, 0xd5, 0xa1, 0x8a, 0x52, 0xbe, 0x97, 0x40]

/-- The associated data of device-bound messages: the header of a P-256 public key. -/
def deviceBoundData : Bytes :=
  [0x30, 0x59, 0x30, 0x13, 0x06, 0x07, 0x2a, 0x86, 0x48, 0xce, 0x3d, 0x02, 0x01, 0x06, 0x08,
    0x2a, 0x86, 0x48, 0xce, 0x3d, 0x03, 0x01, 0x07, 0x03, 0x42, 0x00]

/-- All that sealing needs beside the text. -/
structure SealContext where
  mode : SealMode
  key : CipherKey
  /-- The caller's associated data. -/
  callerData : Bytes := []
deriving Repr

namespace SealContext

/-- The associated data that is authenticated; device-bound messages ignore the caller's. -/
def associatedData (c : SealContext) : Bytes :=
  match c.mode with
  | .deviceBound => deviceBoundData
  | .sharedKey => c.callerData

/-- The nonce of the next message. -/
def nonce (c : SealContext) (e : Entropy) : Except Error Bytes × Entropy :=
  match c.mode with
  | .deviceBound => (.ok deviceBoundNonce, e)
  | .sharedKey =>
    match e.draw Gcm.nonceSize with
    | some (nonce, rest) => (.ok nonce, rest)
    | none => (.error .rngFailed, e)

/-- The block cipher of the context's key. -/
def cipher (c : SealContext) : Block → Block := Aes.encrypt c.key.bytes

end SealContext

/-! ## Messages -/

/-- A nonce, and a ciphertext with its tag behind it. -/
structure SealedMessage where
  nonce : Bytes
  body : Bytes
deriving DecidableEq, Repr

namespace SealedMessage

/-- The bytes around an empty text. -/
def minLength : Nat := Gcm.nonceSize + Gcm.tagSize

/-- Splits off the nonce. -/
def ofBytes (b : Bytes) : Except Error SealedMessage :=
  if b.length < minLength then
    .error (.malformedInput s!"sealed message is {b.length} bytes, need at least {minLength}")
  else .ok ⟨b.take Gcm.nonceSize, b.drop Gcm.nonceSize⟩

/-- Nonce, ciphertext and tag in a row. -/
def bytes (m : SealedMessage) : Bytes := m.nonce ++ m.body

/-- The ciphertext. -/
def ciphertext (m : SealedMessage) : Bytes := m.body.take (m.body.length - Gcm.tagSize)

/-- The tag. -/
def tag (m : SealedMessage) : Bytes := m.body.drop (m.body.length - Gcm.tagSize)

/-- The written form. -/
def toBase64 (m : SealedMessage) : String := Base64.encode .standard m.bytes

/-- Reads the written form, without regard to blanks around it. -/
def ofBase64 (text : String) : Except Error SealedMessage :=
  match Base64.decode .standard (Text.trim text) with
  | .ok b => ofBytes b
  | .error fault => .error (.malformedInput ("invalid base64: " ++ fault.message))

/-- The diagnostic form: the nonce, and the length of the rest. -/
def debug (m : SealedMessage) : String :=
  "SealedMessage \x7b nonce: " ++ Text.quote m.nonce.toHex ++ ", len: " ++
    toString m.body.length ++ " \x7d"

end SealedMessage

/-! ## Sealing and opening -/

/-- What `use` makes of the cipher under the given bytes, which are refused if the cipher has no
key of their length. -/
def underKey {α : Type} (key : Bytes) (use : (Block → Block) → Except Error α) : Except Error α :=
  match key.length with
  | 16 | 24 | 32 => use (Aes.encrypt key)
  | n => .error (.invalidKey s!"unsupported key length {n}")

namespace SealContext

/-- The error of a text that cannot be sealed. -/
def sealFailure : Error := .encryptionFailed "AES-GCM seal failed"

/-- The message of a text under a given nonce. -/
def sealWith (c : SealContext) (nonce text : Bytes) : Except Error SealedMessage :=
  match Gcm.encrypt c.cipher nonce c.associatedData text with
  | some body => .ok ⟨nonce, body⟩
  | none => .error sealFailure

/-- The message of a text. -/
def sealBytes (c : SealContext) (text : Bytes) (e : Entropy) :
    Except Error SealedMessage × Entropy :=
  match c.nonce e with
  | (.ok nonce, rest) => (c.sealWith nonce text, rest)
  | (.error fault, rest) => (.error fault, rest)

/-- The text of a message, if its tag verifies. -/
def openBytes (c : SealContext) (m : SealedMessage) : Except Error Bytes :=
  match Gcm.decrypt c.cipher m.nonce c.associatedData m.body with
  | some text => .ok text
  | none => .error .authenticationFailure

/-- The message of a text in a context, under any bytes in the place of its key. -/
def sealUnder (c : SealContext) (key text : Bytes) (e : Entropy) :
    Except Error SealedMessage × Entropy :=
  match c.nonce e with
  | (.ok nonce, rest) =>
    (underKey key fun cipher =>
      match Gcm.encrypt cipher nonce c.associatedData text with
      | some body => .ok ⟨nonce, body⟩
      | none => .error sealFailure, rest)
  | (.error fault, rest) => (.error fault, rest)

/-- The text of a message in a context, under any bytes in the place of its key. -/
def openUnder (c : SealContext) (key : Bytes) (m : SealedMessage) : Except Error Bytes :=
  underKey key fun cipher =>
    match Gcm.decrypt cipher m.nonce c.associatedData m.body with
    | some text => .ok text
    | none => .error .authenticationFailure

/-- The written form of a sealed text. -/
def sealText (c : SealContext) (text : String) (e : Entropy) : Except Error String × Entropy :=
  match c.sealBytes (Bytes.ofText text) e with
  | (.ok m, rest) => (.ok m.toBase64, rest)
  | (.error fault, rest) => (.error fault, rest)

/-- The text in the written form of a sealed message. -/
def openText (c : SealContext) (sealed : String) : Except Error String := do
  let m ← SealedMessage.ofBase64 sealed
  let b ← c.openBytes m
  match Bytes.toText? b with
  | some text => return text
  | none => throw (.malformedInput "decrypted payload is not UTF-8")

end SealContext

end DeviceSecurity
